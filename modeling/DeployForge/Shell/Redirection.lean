import DeployForge.Shell.Channel

namespace DeployForge.Shell

def Redirect.fd : Redirect → Nat
  | .file fd _ _ | .duplicate fd _ | .document fd _ _ => fd

namespace Redirection

inductive Target where
  | file (fd : Nat) (mode : FileMode) (path : Octets)
  | duplicate (fd source : Nat)
  | close (fd : Nat)
  | document (fd key : Nat) (expands : Bool)
  deriving DecidableEq, Repr

def duplicate (fd : Nat) (source : Octets) : Act Target :=
  match source with
  | ['-'] => return .close fd
  | [c] =>
    if c.isDigit then return .duplicate fd (digitValue c)
    else Act.failText "Syntax error: Bad fd number"
  | _ => Act.failText "Syntax error: Bad fd number"

def opened (m : Machine) (fd : Nat) (mode : FileMode) (path : Octets) :
    Except OsError Machine := do
  let toWrite (writing : Machine.Writing) (reads : Bool) : Except OsError Machine := do
    let (o, m) ← m.openToWrite writing reads path
    return m.openAs fd o
  match mode with
  | .read => return m.openAs fd (← m.openToRead path)
  | .append => toWrite .append false
  | .readWrite => toWrite .keep true
  | .clobber => toWrite .truncate false
  | .write =>
    match m.has 'C', m.storage.status true path with
    | true, .ok (_, .file _) | true, .ok (_, .directory) => .error .entryExists
    | _, _ => toWrite .truncate false

def faultText (isRead : Bool) (path : Octets) (e : OsError) : Octets :=
  let reason :=
    if e = .noEntry || e = .notDirectory then
      if isRead then "No such file" else "Directory nonexistent"
    else e.text
  (if isRead then "cannot open " else "cannot create ").toList ++ path ++ ": ".toList
    ++ reason.toList

def openFile (fd : Nat) (mode : FileMode) (path : Octets) : Act Unit := do
  match opened (← get) fd mode path with
  | .ok m => set m
  | .error e => Act.fail (faultText (mode = .read) path e)

def connect (fd source : Nat) : Act Unit := do
  let m ← get
  match m.table.lookup source with
  | some n => set (m.connect fd n)
  | none => Act.fail (.ofNat source ++ ": Bad file descriptor".toList)

def restoring (fds : List Nat) (work : Act Unit) : Act Unit := do
  let table := (← get).table
  work.andThen fun m => fds.foldl (fun m fd =>
    match table.lookup fd with
    | some n => m.connect fd n
    | none => m.disconnect fd) m

def attempt (work : Act Unit) : Act Bool := fun m =>
  match work m with
  | (.ok (), m) => (.ok true, m)
  | (.error .error, m) => (.ok false, m)
  | (.error stop, m) => (.error stop, m)

end Redirection

end DeployForge.Shell
