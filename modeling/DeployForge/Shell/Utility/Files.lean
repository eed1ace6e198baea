import DeployForge.Shell.Utility.Input
import DeployForge.Shell.Utility.Mode

namespace DeployForge.Shell

namespace Octets

def withoutSlashes (p : Octets) : Octets := dropRightWhile (· = '/') p

def baseName (p : Octets) : Octets :=
  let q := withoutSlashes p
  if q.isEmpty then p.take 1 else (q.reverse.takeWhile (· ≠ '/')).reverse

def directoryName (p : Octets) : Octets :=
  let q := withoutSlashes p
  if q.isEmpty then if p.isEmpty then ['.'] else ['/']
  else
    let front := q.take (q.length - (baseName q).length)
    if front.isEmpty then ['.']
    else if (withoutSlashes front).isEmpty then ['/'] else withoutSlashes front

def within (directory name : Octets) : Octets :=
  if directory.getLast? = some '/' then directory ++ name.dropWhile (· = '/')
  else directory ++ '/' :: name.dropWhile (· = '/')

end Octets

namespace Machine

def own? (m : Machine) (p : Octets) : Option (Location × Entry) :=
  (m.storage.status false p).toOption

def seen? (m : Machine) (p : Octets) : Option (Location × Entry) :=
  (m.storage.status true p).toOption

end Machine

namespace Act

def store (change : Storage → Except OsError Storage) : Act (Except OsError Unit) := do
  let m ← get
  match change m.storage with
  | .ok storage =>
    set { m with storage }
    return .ok ()
  | .error e => return .error e

def unlink (p : Octets) : Act (Except OsError Unit) := do
  let m ← get
  match m.storage.unlink p with
  | .ok (l, storage) =>
    set { m.orphan l with storage }
    return .ok ()
  | .error e => return .error e

def rename (p q : Octets) : Act (Except OsError Unit) := do
  let m ← get
  match m.storage.rename p q with
  | .ok (a, b, storage) =>
    set { (m.orphan b).follow a b with storage }
    return .ok ()
  | .error e => return .error e

end Act

namespace Call

def cannot (c : Call) (what : String) (p : Octets) (e : OsError) : Act Unit :=
  c.complain (what.toList ++ ' ' :: Quote.always p ++ ": ".toList ++ .ofString e.text)

def asks (c : Call) (question : Octets) : Act Bool := do
  modify fun m => ((m.write 2 (c.name ++ ": ".toList ++ question ++ "? ".toList)).toOption).getD m
  let m ← get
  match m.readable 0 with
  | .error _ => return false
  | .ok text =>
    let line := text.takeWhile (· ≠ '\n')
    set (m.advance 0 (min text.length (line.length + 1)))
    return line.head? = some 'y' || line.head? = some 'Y'

def each (_ : Call) (operands : List Octets) (work : Octets → Act Bool) : Act Nat := do
  let mut status := 0
  for p in operands do
    if !(← work p) then status := 1
  return status

def modeOf (c : Call) (s : Octets) : Act Mode.Spec :=
  match Mode.read? s with
  | some spec => return spec
  | none => c.fail 1 ("invalid mode ".toList ++ Quote.always s)

end Call

end DeployForge.Shell
