import DeployForge.Shell.Builtin.Variables
import DeployForge.Shell.Parser

namespace DeployForge.Shell

def Machine.learn (m : Machine) (name : Octets) : Machine :=
  if m.known.contains name then m else { m with known := m.known ++ [name] }

namespace Search

def regularNames : List String := [
  "[", "alias", "bg", "cd", "chdir", "command", "echo", "false", "fg", "getopts", "hash", "jobs",
  "kill", "printf", "pwd", "read", "test", "true", "type", "ulimit", "umask", "unalias", "wait"]

def bindingNames : List String := ["alias", "export", "local", "readonly"]

def isSpecial (name : Octets) : Bool :=
  name = "local".toList || Parser.specialNames.contains (String.ofList name)

def isBuiltin (name : Octets) : Bool :=
  isSpecial name || regularNames.contains (String.ofList name)

inductive Found where
  | builtin
  | function (body : Command)
  | program (path : Octets)
  | missing (e : OsError)

def defaultPath : Octets := "/usr/sbin:/usr/bin:/sbin:/bin".toList

def candidates (path name : Octets) : List Octets :=
  (Text.splitAt ':' path).map fun dir => if dir.isEmpty then name else dir ++ '/' :: name

def firstOf (s : Storage) (e : OsError) : List Octets → Except OsError Octets
  | [] => .error e
  | p :: ps =>
    match s.status true p with
    | .ok (l, _) => if s.isRunnable l then .ok p else firstOf s .denied ps
    | .error f => firstOf s (if f = .noEntry || f = .notDirectory then e else f) ps

def inPath (s : Storage) (path : Option Octets) (name : Octets) : Except OsError Octets :=
  if name.contains '/' then .ok name
  else
    match path with
    | some path => firstOf s .noEntry (candidates path name)
    | none => .error .noEntry

def find (m : Machine) (path : Option Octets) (skipsFunctions : Bool) (name : Octets) : Found :=
  if name.contains '/' then .program name
  else
    match if skipsFunctions then none else m.functions.lookup name with
    | some body => .function body
    | none =>
      if isBuiltin name then .builtin
      else
        match inPath m.storage path name with
        | .ok p => .program p
        | .error e => .missing e

def faultText (e : OsError) : Octets :=
  if e = .noEntry || e = .notDirectory then "not found".toList else e.text.toList

def describe (isVerbose : Bool) (path : Option Octets) (name : Octets) : Act Nat := do
  let m ← get
  let tell (short long : Octets) : Act Nat := do
    Act.putLine (if isVerbose then name ++ ' ' :: long else short)
    return 0
  if Parser.keywords.any (·.toList = name) then tell name "is a shell keyword".toList
  else
    match m.aliases.lookup name with
    | some text =>
      tell ("alias ".toList ++ name ++ '=' :: Builtin.quoted text)
        ("is an alias for ".toList ++ text)
    | none =>
      match find m (path.or (m.value? "PATH".toList)) false name with
      | .builtin =>
        tell name ((if isSpecial name then "is a special " else "is a ").toList
          ++ "shell builtin".toList)
      | .function _ => tell name "is a shell function".toList
      | .program p =>
        if name.contains '/' && !m.storage.isPresent name then
          if isVerbose then Act.putLine (name ++ ": not found".toList)
          return 127
        let isKnown := m.known.contains name
        if !name.contains '/' then set (m.learn name)
        tell p ((if isKnown then "is a tracked alias for " else "is ").toList ++ p)
      | .missing _ =>
        if isVerbose then Act.putLine (name ++ ": not found".toList)
        return 127

def describeAll : List Octets → Act Nat
  | [] => return 0
  | names => do
    let mut status := 0
    for name in names do
      let s ← describe true none name
      status := status ||| s
    return status

def knownGroup (name : Octets) : Nat :=
  let first := (name.head?.map Char.toNat).getD 0 * 16
  (name.foldl (fun n c => n + c.toNat) first) % 32768 % 31

def hash (args : List Octets) : Act Nat := do
  let (letters, names) ← Builtin.lettersFrom "r" args
  let m ← get
  if letters.contains 'r' then
    set { m with known := [] }
    return 0
  if names.isEmpty then
    for name in m.known.mergeSort fun a b => knownGroup a ≤ knownGroup b do
      match inPath m.storage (m.value? "PATH".toList) name with
      | .ok p => Act.putLine p
      | .error _ => pure ()
    return 0
  let mut status := 0
  for name in names do
    let m ← get
    match find m (m.value? "PATH".toList) false name with
    | .program _ => if !name.contains '/' then set (m.learn name)
    | .missing _ =>
      Act.warn (name ++ ": not found".toList)
      status := 1
    | _ => pure ()
  return status

def command (args : List Octets) : Act Nat := do
  let (letters, names) ← Builtin.lettersFrom "pvV" args
  match letters.contains 'v' || letters.contains 'V', names with
  | true, name :: _ =>
    let path := if letters.contains 'p' then some defaultPath else none
    describe (letters.contains 'V') path name
  | _, _ => return 0

end Search

end DeployForge.Shell
