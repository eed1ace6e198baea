import DeployForge.Shell.Storage

/-! What starting a file runs: an installed program, or the interpreter that a script names. -/

namespace DeployForge.Shell

structure Image where
  program : String
  arguments : List Octets
  deriving DecidableEq, Repr

namespace Image

def headSize : Nat := 256

def interpreter? (content : Octets) : Option (Octets × Option Octets) :=
  match content with
  | '#' :: '!' :: _ =>
    let head := content.take headSize
    let line := (head.drop 2).takeWhile (· ≠ '\n')
    let isCut := headSize ≤ content.length && !head.contains '\n'
    let words := (line.takeWhile (· ≠ '\x00')).dropWhile isBlank
    let name := words.takeWhile fun c => !isBlank c
    let argument := Octets.dropRightWhile isBlank ((words.drop name.length).dropWhile isBlank)
    if name.isEmpty || isCut && name.length = words.length then none
    else some (name, if argument.isEmpty then none else some argument)
  | _ => none

def loadWithin (s : Storage) : Nat → Octets → List Octets → Except OsError Image
  | 0, _, _ => .error .tooManyLinks
  | depth + 1, path, arguments => do
    match ← s.status true path with
    | (l, .program) => .ok ⟨((Storage.programAt? l).getD ""), arguments⟩
    | (l, .file content) =>
      if !s.isRunnable l then .error .denied
      else
        match interpreter? (.ofByteArray content) with
        | some (name, argument?) =>
          loadWithin s depth name (name :: argument?.toList ++ path :: arguments.tail)
        | none => .error .badFormat
    | _ => .error .denied

def load (s : Storage) (path : Octets) (arguments : List Octets) : Except OsError Image :=
  loadWithin s 6 path arguments

/-- A file that says nothing of how it is run is a script of the shell. -/
def loadOrScript (s : Storage) (path : Octets) (arguments : List Octets) : Except OsError Image :=
  match load s path arguments with
  | .error e =>
    if e = .badFormat then .ok ⟨"sh", "/bin/sh".toList :: path :: arguments.tail⟩ else .error e
  | result => result

end Image

end DeployForge.Shell
