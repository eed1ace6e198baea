import DeployForge.Shell.Builtin.Variables

namespace DeployForge.Shell

structure Mode where
  splits : Bool := false
  hasTilde : Bool := false
  isBinding : Bool := false
  isAfterEquals : Bool := false
  inWord : Bool := false
  isQuoted : Bool := false
  isSkipped : Bool := false

abbrev Growth := StateT Expansion Act

namespace Mode

def field : Mode := { splits := true, hasTilde := true }

def binding : Mode := { isBinding := true, hasTilde := true }

def single : Mode := { hasTilde := true }

/-- The plain characters that a word begins with. In an assignment they end behind a character
that a tilde may follow. -/
def plainRun (mode : Mode) : Word → Octets × Word
  | .plain c :: rest =>
    if mode.isBinding && (c = ':' || c = '=' && !mode.isAfterEquals) then ([c], rest)
    else
      let (cs, rest) := plainRun mode rest
      (c :: cs, rest)
  | w => ([], w)

def tildeName? (mode : Mode) : Word → Option (Octets × Word)
  | [] => some ([], [])
  | .endParameter :: rest => some ([], .endParameter :: rest)
  | .plain c :: rest =>
    if c = '/' || c = ':' && mode.isBinding then some ([], .plain c :: rest)
    else (tildeName? mode rest).map fun (name, rest) => (c :: name, rest)
  | _ => none

end Mode

namespace Machine

def home? (m : Machine) (name : Octets) : Option Octets :=
  if name.isEmpty then m.value? "HOME".toList
  else if name = "root".toList then some "/root".toList
  else none

def joined (m : Machine) (mode : Mode) (name : Char) : Octets :=
  let between : Octets :=
    if mode.splits && (!mode.isQuoted || name = '@') then ['\x00'] else m.separators.take 1
  Octets.join between m.arguments

def parameter? (m : Machine) (mode : Mode) (name : Octets) : Option Octets :=
  match name with
  | ['$'] => some (.ofNat m.root)
  | ['?'] => some (.ofNat m.status)
  | ['#'] => some (.ofNat m.arguments.length)
  | ['!'] => m.lastChild.map Octets.ofNat
  | ['-'] => some ((Builtin.options.filterMap (·.2)).reverse.filter m.has)
  | ['@'] => some (m.joined mode '@')
  | ['*'] => some (m.joined mode '*')
  | c :: _ =>
    if c.isDigit then
      match Octets.nat name with
      | 0 => some m.name
      | n + 1 => m.arguments[n]?
    else m.value? name
  | [] => none

end Machine

namespace Growth

def size : Growth Nat := return (← get).cells.size

def tilde (mode : Mode) (w : Word) : Growth Word := do
  match w with
  | .plain '~' :: rest =>
    match mode.tildeName? rest with
    | some (name, rest) =>
      match (← getThe Machine).home? name with
      | some home =>
        if !mode.isSkipped then modify (·.pushAll home true)
        return rest
      | none => return w
    | none => return w
  | _ => return w

/-- Adds a text unless this part is skipped. -/
def put (mode : Mode) (s : Octets) : Growth Unit :=
  if mode.isSkipped then pure () else modify (·.pushAll s mode.isQuoted)

def record (mode : Mode) (start : Nat) : Growth Unit :=
  if mode.isSkipped || mode.isQuoted then pure () else modify (·.record start false)

def recordValue (mode : Mode) (name : Octets) (start : Nat) : Growth Unit := do
  let m ← getThe Machine
  if mode.isQuoted && !mode.isSkipped && name = ['@'] && !m.arguments.isEmpty then
    modify (·.record start true)
  else record mode start

def takeFrom (start : Nat) : Growth Marked := do
  let e ← get
  set (e.truncate start)
  return e.markedFrom start

def run (work : Growth Word) : Act Expansion := do
  let (_, e) ← StateT.run work {}
  return e

end Growth

end DeployForge.Shell
