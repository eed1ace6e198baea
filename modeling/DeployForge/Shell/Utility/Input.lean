import DeployForge.Shell.Utility.Options

namespace DeployForge.Shell

namespace Call

def read (_ : Call) (name : Octets) : Act (Except OsError Octets) := do
  if name = ['-'] then Act.readAll 0 else return (← get).read name

def complainOf (c : Call) (name : Octets) (e : OsError) : Act Unit :=
  c.complain (Quote.ifNeeded name ++ ": ".toList ++ .ofString e.text)

def read? (c : Call) (name : Octets) : Act (Option Octets) := do
  match ← c.read name with
  | .ok text => return some text
  | .error e =>
    c.complainOf name e
    return none

def readOrFail (c : Call) (status : Nat) (name : Octets) : Act Octets := do
  match ← c.read? name with
  | some text => return text
  | none => abort status

def eachInput (c : Call) (names : List Octets) (work : Octets → Octets → Act Unit) : Act Nat := do
  let mut status := 0
  for name in if names.isEmpty then [['-']] else names do
    match ← c.read? name with
    | some text => work name text
    | none => status := 1
  return status

def store (name content : Octets) : Act (Except OsError Unit) := do
  let m ← get
  match m.openToWrite .truncate false name with
  | .error e => return .error e
  | .ok (o, m) =>
    let n := m.opened.size
    let m := { m with opened := m.opened.push o }
    match ({ m with table := [(1, n)] }).write 1 content with
    | .ok written =>
      set { written with table := m.table }
      return .ok ()
    | .error e =>
      set m
      return .error e

end Call

def Octets.records (mark : Char) (s : Octets) : List Octets × Bool :=
  let rec go (piece : Octets) : List Char → List Octets → List Octets × Bool
    | [], done =>
      if piece.isEmpty then (done.reverse, true) else ((piece.reverse :: done).reverse, false)
    | c :: rest, done => if c = mark then go [] rest (piece.reverse :: done) else go (c :: piece) rest done
  go [] s []

def Octets.chunks (size : Nat) (s : Octets) : List Octets :=
  let rec go : Nat → Octets → List Octets
    | 0, _ | _, [] => []
    | fuel + 1, s => s.take size :: go fuel (s.drop size)
  go s.length s

end DeployForge.Shell
