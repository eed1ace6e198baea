import DeployForge.Shell.Command
import DeployForge.Shell.Storage

namespace DeployForge.Shell

structure Variable where
  value : Option Octets := none
  isExported : Bool := false
  isReadOnly : Bool := false
  deriving DecidableEq, Repr

inductive Channel where
  | stream (n : Nat)
  | file (l : Location)
  | nameless (content : ByteArray)
  | text (rest : Octets)
  | device (d : Device)

structure Opened where
  channel : Channel
  isReadable : Bool := true
  isWritable : Bool := true
  appends : Bool := false
  offset : Nat := 0

/-- What a copy of the shell takes along and may change without the others seeing it. -/
structure Scope where
  name : Octets := []
  arguments : List Octets := []
  bindings : List (Octets × Variable) := []
  functions : List (Octets × Command) := []
  aliases : List (Octets × Octets) := []
  letters : List Char := []
  hidden : List (List (Octets × Option Variable)) := []
  table : List (Nat × Nat) := []
  traps : List (Nat × Octets) := []
  command : Option Octets := none
  directory : Octets := []
  line : Nat := 1
  functionDepth : Nat := 0
  loopDepth : Nat := 0
  /-- The argument that `getopts` goes on at, and where it is in the one before that. -/
  optionIndex : Nat := 1
  optionOffset : Option Nat := none
  known : List Octets := []
  kept : Option Nat := none
  process : Nat := 4242
  root : Nat := 4242
  parentProcess : Nat := 4200
  children : List Nat := []
  lastChild : Option Nat := none
  isMain : Bool := true

structure Job where
  process : Nat
  since : Nat
  wake : Nat
  status : Option Nat := none
  signal : Option Nat := none
  work : Option (Command × Scope) := none
  place : Location := []
  umask : Nat := 18

structure Machine extends Scope where
  storage : Storage
  opened : Array Opened := #[]
  /-- What was written to each stream, the latest first. -/
  streams : Array (List Octets) := #[]
  streamSizes : Array Nat := #[]
  status : Nat := 0
  substituted : Option Nat := none
  documents : List (Nat × Word) := []
  nextKey : Nat := 0
  jobs : List Job := []
  nextProcess : Nat := 4243
  /-- Signals that have come and have not been looked at, each with its process. -/
  pending : List (Nat × Nat) := []
  /-- Thousandths of a second since the beginning. -/
  now : Nat := 0
  isTested : Bool := false
  writeFault : Option OsError := none
  made : Nat := 0

inductive Stop where
  | exit
  | error
  | returned
  | broken (levels : Nat)
  | continued (levels : Nat)
  | killed (signal : Nat)
  /-- Another program took the place of the shell and is over. -/
  | gone
  | exhausted
  deriving DecidableEq, Repr

/-- What a command does: it may stop, and the machine keeps what it did before. -/
abbrev Act := ExceptT Stop (StateM Machine)

namespace Machine

def has (m : Machine) (letter : Char) : Bool := m.letters.contains letter

def binding? (m : Machine) (name : Octets) : Option Variable := m.bindings.lookup name

def value? (m : Machine) (name : Octets) : Option Octets := (m.binding? name).bind (·.value)

def valueOr (m : Machine) (name default : String) : Octets :=
  (m.value? name.toList).getD default.toList

def setVariable (m : Machine) (name : Octets) (v : Variable) : Machine :=
  if (m.binding? name).isSome then
    { m with bindings := m.bindings.map fun (n, w) => if n = name then (n, v) else (n, w) }
  else { m with bindings := m.bindings ++ [(name, v)] }

def dropVariable (m : Machine) (name : Octets) : Machine :=
  { m with bindings := m.bindings.filter (·.1 ≠ name) }

def store (m : Machine) (name value : Octets) : Machine :=
  let v := (m.binding? name).getD {}
  let m := m.setVariable name { v with value := some value, isExported := v.isExported || m.has 'a' }
  if name = "OPTIND".toList then
    { m with optionIndex := max 1 ((Octets.nat? value).getD 1), optionOffset := none }
  else if name = "PATH".toList then { m with known := [] }
  else m

def restore (m : Machine) (name : Octets) : Option Variable → Machine
  | some v => m.setVariable name v
  | none => m.dropVariable name

/-- The group of a variable. The shell hands its variables on group by group. -/
def group (name : Octets) : Nat :=
  name.foldl (fun n c => n + c.toNat) ((name.head?.map Char.toNat).getD 0 * 16) % 39

def environment (m : Machine) : List (Octets × Octets) :=
  m.bindings.filterMap fun (name, v) =>
    if v.isExported then v.value.map fun value => (name, value) else none

def grouped (m : Machine) : Machine :=
  { m with bindings := m.bindings.mergeSort fun (a, _) (b, _) => group a ≤ group b }

def separators (m : Machine) : List Char := (m.value? "IFS".toList).getD [' ', '\t', '\n']

end Machine

namespace Act

def setStatus (n : Nat) : Act Unit := modify fun m => { m with status := n }

def andThen {α : Type} (work : Act α) (after : Machine → Machine) : Act α := fun m =>
  match work m with
  | (result, m) => (result, after m)

def guarded (work : Act Unit) : Act Unit := fun m =>
  match work m with
  | (.error .error, m) => (.ok (), m)
  | result => result

def returning (work : Act Unit) : Act Unit := fun m =>
  match work m with
  | (.error .returned, m) => (.ok (), m)
  | result => result

end Act

end DeployForge.Shell
