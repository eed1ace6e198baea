import DeployForge.Shell.Format

/-! Spans of time such as `0.5` and `2m`, in thousandths of a second. -/

namespace DeployForge.Shell.Duration

def unit? : Octets → Option Nat
  | [] | ['s'] => some 1
  | ['m'] => some 60
  | ['h'] => some 3600
  | ['d'] => some 86400
  | _ => none

def read? (s : Octets) : Option Nat := do
  match ← Real.read Real.double s with
  | (.finite false b, rest) =>
    let (num, den) := b.fraction
    return num * 1000 * (← unit? rest) / den
  | (.infinite false, rest) => return 1000000000000 * (← unit? rest)
  | _ => none

end DeployForge.Shell.Duration
