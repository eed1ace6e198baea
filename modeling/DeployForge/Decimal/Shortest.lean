import DeployForge.Decimal.Binary

namespace DeployForge.Decimal

structure Shortest where
  digits : Nat
  exponent : Int
  deriving DecidableEq, Repr

/-- Of the two multiples of `10 ^ exponent` around `b`, the nearest that reads back, the upper one
of two that are as near. -/
def onGrid? (b : Binary) (exponent : Int) : Option Shortest :=
  let (n, d) := scale 2 (-b.exponent) b.mantissa 1
  let (n, d) := scale 10 exponent n d
  let reads (digits : Nat) : Bool := digits ≠ 0 && nearest digits exponent = .finite b
  let near := (2 * n + d) / (2 * d)
  let other := if near * d > n then near - 1 else near + 1
  if reads near then some ⟨near, exponent⟩
  else if reads other then some ⟨other, exponent⟩
  else none

/-- The exponent of the leading decimal digit, give or take one. -/
def leading (b : Binary) : Int :=
  let (n, d) := scale 2 (-b.exponent) b.mantissa 1
  ((Nat.toDigits 10 n).length : Int) - (Nat.toDigits 10 d).length + 1

def searchFrom (b : Binary) (exponent : Int) : Nat → Shortest
  | 0 => ⟨0, 0⟩
  | tries + 1 => (onGrid? b exponent).getD (searchFrom b (exponent - 1) tries)

/-- The coarsest grid with a hit has the fewest digits. -/
def shortest (b : Binary) : Shortest :=
  if b.mantissa = 0 then ⟨0, 0⟩ else searchFrom b (leading b) 24

def Shortest.positional (s : Shortest) : String :=
  let digits := Nat.toDigits 10 s.digits
  if s.exponent ≥ 0 then
    String.ofList (digits ++ List.replicate s.exponent.toNat '0') ++ ".0"
  else
    let places := (-s.exponent).toNat
    let padded := List.replicate (places + 1 - digits.length) '0' ++ digits
    String.ofList (padded.take (padded.length - places)) ++ "."
      ++ String.ofList (padded.drop (padded.length - places))

end DeployForge.Decimal
