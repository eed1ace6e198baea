import DeployForge.Disk.Tree

/-!
A tree of files on a medium that may refuse a write or stop in the middle of one, or hold on to a
file.
-/

namespace DeployForge

/-- What a failing write leaves: the file as it was, or the first bytes of the new content. -/
structure Fault where
  kept : Option Nat
  error : OsError

/-- The answer to the `n`-th write of a content. -/
abbrev Medium := Nat → ByteArray → Option Fault

namespace Medium

def reliable : Medium := fun _ _ => none

def limited (size : Nat) : Medium := fun _ content =>
  if size < content.size then some ⟨some size, .tooLarge⟩ else none

end Medium

structure Disk where
  tree : Tree := {}
  place : Location := []
  medium : Medium := .reliable
  writes : Nat := 0
  /-- The places at which a file cannot be removed. -/
  held : Location → Option Refusal := fun _ => none

namespace Disk

def read (d : Disk) (p : Path) : Except IoError ByteArray := d.tree.read d.place p

def readText (d : Disk) (p : Path) : Except IoError String := do
  match String.fromUTF8? (← d.read p) with
  | some text => .ok text
  | none => .error .invalidText

def isPresent (d : Disk) (p : Path) : Bool := (d.tree.status d.place p).isOk

def store (d : Disk) (l : Location) (runnable : Bool) (content : ByteArray) :
    Except IoError Unit × Disk :=
  let d' := { d with writes := d.writes + 1 }
  match d.medium d.writes content with
  | none => (.ok (), { d' with tree := d.tree.insert l (.file content runnable) })
  | some ⟨none, e⟩ => (.error (.os e), d')
  | some ⟨some n, e⟩ =>
    (.error (.os e), { d' with tree := d.tree.insert l (.file (content.extract 0 n) runnable) })

def write (d : Disk) (p : Path) (content : ByteArray) : Except IoError Unit × Disk :=
  match d.tree.target d.place p with
  | .error e => (.error e, d)
  | .ok (l, runnable) => d.store l runnable content

def writeText (d : Disk) (p : Path) (text : String) : Except IoError Unit × Disk :=
  d.write p text.toUTF8

def remove (d : Disk) (p : Path) : Except IoError Unit × Disk :=
  match d.tree.remove d.held d.place p with
  | .error e => (.error e, d)
  | .ok tree => (.ok (), { d with tree })

def createDirectories (d : Disk) (p : Path) : Except IoError Unit × Disk :=
  let (result, tree) := d.tree.createDirectories d.place p
  (result, { d with tree })

end Disk

end DeployForge
