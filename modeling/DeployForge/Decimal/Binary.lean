namespace DeployForge.Decimal

structure Binary where
  mantissa : Nat
  exponent : Int
  deriving DecidableEq, Repr

/-- `num / den`, rounded to the nearest whole number, a half to the even neighbour. -/
def roundDiv (num den : Nat) : Nat :=
  let low := num / den
  let rest := 2 * (num % den)
  if rest > den || rest = den && low % 2 = 1 then low + 1 else low

def scale (base : Nat) (e : Int) (num den : Nat) : Nat × Nat :=
  if e < 0 then (num * Nat.pow base (-e).toNat, den) else (num, den * Nat.pow base e.toNat)

/-- The nearest number to `num / den` with so many binary digits, its exponent not below `least`. -/
def roundTo (bits : Nat) (least : Int) (num den : Nat) : Binary :=
  let guess : Int := max least (Nat.log2 num - Nat.log2 den - bits)
  let (n, d) := scale 2 guess num den
  let exponent := if n / d < Nat.pow 2 bits then guess else guess + 1
  let (n, d) := scale 2 exponent num den
  let mantissa := roundDiv n d
  if mantissa < Nat.pow 2 bits then ⟨mantissa, exponent⟩
  else ⟨Nat.pow 2 (bits - 1), exponent + 1⟩

def nearestFraction (num den : Nat) : Binary := roundTo 53 (-1074) num den

inductive Nearest where
  | finite (b : Binary)
  | infinite
  deriving DecidableEq, Repr

def nearest (digits : Nat) (exponent : Int) : Nearest :=
  let size : Int := (Nat.toDigits 10 digits).length + exponent
  if digits = 0 || size < -400 then .finite ⟨0, 0⟩
  else if size > 400 then .infinite
  else
    let (num, den) := scale 10 (-exponent) digits 1
    let b := nearestFraction num den
    if b.exponent > 971 then .infinite else .finite b

end DeployForge.Decimal
