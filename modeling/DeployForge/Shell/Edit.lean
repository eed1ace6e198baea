import DeployForge.Shell.Regex.Reading

namespace DeployForge.Shell.Edit

structure Finder where
  regex : Regex
  groups : Nat := 0
  folds : Bool := false
  hasLines : Bool := false
  deriving DecidableEq, Repr

namespace Finder

def subject (f : Finder) (s : Octets) : Regex.Subject :=
  { text := s.toArray, folds := f.folds, hasLines := f.hasLines }

def matches_ (f : Finder) (s : Octets) : Bool := (Regex.find? (f.subject s) f.regex 0).isSome

end Finder

inductive Address where
  | line (n : Nat)
  | step (first by_ : Nat)
  | last
  | found (f : Option Finder)
  | lines (n : Nat)
  | multiple (n : Nat)
  deriving DecidableEq, Repr

inductive Letters where
  | asTheyAre
  | upper
  | lower
  deriving DecidableEq, Repr

namespace Letters

def apply : Letters → Char → Char
  | asTheyAre, c => c
  | upper, c => c.toUpper
  | lower, c => c.toLower

end Letters

/-- How letters are written: all of them, and perhaps the first one in a way of its own. -/
structure Writing where
  all : Letters := .asTheyAre
  first : Option Letters := none
  deriving DecidableEq, Repr

namespace Writing

def apply (w : Writing) (s : Octets) : Octets :=
  match w.first, s with
  | some l, c :: rest => l.apply c :: rest.map w.all.apply
  | _, _ => s.map w.all.apply

end Writing

structure Portion where
  text : Octets := []
  group : Option Nat := none
  writing : Writing := {}
  deriving DecidableEq, Repr

structure Substitution where
  finder : Option Finder := none
  portions : List Portion := []
  isGlobal : Bool := false
  number : Nat := 0
  showsBefore : Bool := false
  shows : Bool := false
  runs : Bool := false
  file : Option Octets := none
  deriving DecidableEq, Repr

inductive Occasion where
  | always
  | changed
  | unchanged
  deriving DecidableEq, Repr

inductive Action where
  | nothing
  | block (stop : Nat)
  | append (text : Octets)
  | insert (text : Octets)
  | change (text : Octets)
  | delete
  | deleteLine
  | run (command : Octets)
  | fileName
  | copyFromHold
  | appendFromHold
  | copyToHold
  | appendToHold
  | exchange
  | show_ (width : Option Nat)
  | next
  | appendNext
  | print
  | printLine
  | number
  | quit (status : Nat)
  | leave (status : Nat)
  | readFile (name : Octets)
  | readLine (name : Octets)
  | writeFile (name : Octets)
  | writeLine (name : Octets)
  | substitute (s : Substitution)
  | exchangeChars (pairs : List (Char × Char))
  | clear
  | jump (when_ : Occasion) (label : Octets)
  | unusable (c : Char)
  deriving DecidableEq, Repr

structure Step where
  first : Option Address := none
  second : Option Address := none
  negated : Bool := false
  action : Action := .nothing
  deriving DecidableEq, Repr

structure Script where
  steps : Array Step := #[]
  labels : List (Octets × Nat) := []
  isQuiet : Bool := false

namespace Script

def outputs (s : Script) : List Octets :=
  (s.steps.toList.filterMap fun step =>
    match step.action with
    | .writeFile name | .writeLine name => some name
    | .substitute { file := some name, .. } => some name
    | _ => none).eraseDups

def missing? (s : Script) : Option Octets :=
  s.steps.toList.findSome? fun step =>
    match step.action with
    | .jump _ label => if label.isEmpty || (s.labels.lookup label).isSome then none else some label
    | _ => none

end Script

end DeployForge.Shell.Edit
