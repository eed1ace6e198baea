import DeployForge.Decimal.Binary

namespace DeployForge.Decimal

def digitsOf (width n : Nat) : List Char :=
  let ds := Nat.toDigits 10 n
  List.replicate (width - ds.length) '0' ++ ds

def Binary.fraction (b : Binary) : Nat × Nat := scale 2 (-b.exponent) b.mantissa 1

/-- A fraction with `places` digits behind the point, the parts before and behind it apart. -/
def places (num den places : Nat) : List Char × List Char :=
  let ds := digitsOf (places + 1) (roundDiv (num * Nat.pow 10 places) den)
  (ds.take (ds.length - places), ds.drop (ds.length - places))

def magnitude (num den : Nat) : Int :=
  let guess : Int :=
    ((Nat.toDigits 10 num).length : Int) - ((Nat.toDigits 10 den).length : Int)
  let (n, d) := scale 10 guess num den
  if n < d then guess - 1 else guess

def scientific (num den places : Nat) : List Char × Int :=
  if num = 0 then (List.replicate (places + 1) '0', 0)
  else
    let e := magnitude num den
    let (n, d) := scale 10 (e - places) num den
    let ds := Nat.toDigits 10 (roundDiv n d)
    if ds.length > places + 1 then (ds.take (places + 1), e + 1) else (ds, e)

end DeployForge.Decimal
