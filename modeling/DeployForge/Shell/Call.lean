import DeployForge.Shell.Channel
import DeployForge.Shell.Signal

namespace DeployForge.Shell

structure Ending where
  status : Nat
  signal : Option Nat := none
  deriving DecidableEq, Repr

structure Call where
  name : Octets
  args : List Octets
  run : List Octets → Act (Except OsError Ending)
  /-- Lets thousandths of a second pass. -/
  pass : Nat → Act Unit

abbrev Utility := Call → Act Nat

namespace Call

def complain (c : Call) (text : Octets) : Act Unit :=
  Act.complainOctets (c.name ++ ": ".toList ++ text)

def complainText (c : Call) (text : String) : Act Unit := c.complain (.ofString text)

def become (c : Call) (words : List Octets) : Act (Except OsError Nat) := do
  match ← c.run words with
  | .error e => return .error e
  | .ok { signal := some signal, .. } => throw (.killed signal)
  | .ok ending => return .ok ending.status

end Call

end DeployForge.Shell
