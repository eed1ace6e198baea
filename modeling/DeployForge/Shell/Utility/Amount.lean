import DeployForge.Shell.Utility.Options

namespace DeployForge.Shell.Amount

def factor? (s : Octets) : Option Nat :=
  let power (letter : Char) : Option Nat :=
    ["kK".toList, ['M'], ['G'], ['T'], ['P'], ['E'], ['Z'], ['Y']].findIdx?
      (·.contains letter) |>.map (· + 1)
  match s with
  | [] => some 1
  | ['b'] => some 512
  | ['c'] => some 1
  | ['w'] => some 2
  | [letter] | [letter, 'i', 'B'] => (power letter).map fun n => Nat.pow 1024 n
  | [letter, 'B'] => (power letter).map fun n => Nat.pow 1000 n
  | _ => none

def read? (s : Octets) : Option Nat :=
  let s := s.dropWhile isSpace
  let s := if s.head? = some '+' then s.tail else s
  let digits := s.takeWhile Char.isDigit
  let rest := s.drop digits.length
  if digits.isEmpty then if rest.isEmpty then none else factor? rest
  else (factor? rest).map (Octets.nat digits * ·)

end DeployForge.Shell.Amount
