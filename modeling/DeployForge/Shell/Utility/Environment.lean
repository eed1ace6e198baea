import DeployForge.Shell.Duration
import DeployForge.Shell.Signal
import DeployForge.Shell.Utility.Amount
import DeployForge.Shell.Utility.Files

namespace DeployForge.Shell.Utility

def splitWords (m : Machine) : Nat → Octets → Option Octets → Option Char → List Octets
  | 0, _, word, _ | _, [], word, _ => word.toList
  | fuel + 1, '\\' :: ch :: rest, word, quote =>
    let word' := word.getD []
    if quote = some '\'' && ch ≠ '\'' && ch ≠ '\\' then
      splitWords m fuel rest (some (word' ++ ['\\', ch])) quote
    else
      match ch with
      | 'n' => splitWords m fuel rest (some (word' ++ ['\n'])) quote
      | 't' => splitWords m fuel rest (some (word' ++ ['\t'])) quote
      | '_' =>
        if quote.isNone then word.toList ++ splitWords m fuel rest none none
        else splitWords m fuel rest (some (word' ++ [' '])) quote
      | 'c' => word.toList
      | _ => splitWords m fuel rest (some (word' ++ [ch])) quote
  | fuel + 1, '$' :: '\x7b' :: rest, word, quote =>
    if quote = some '\'' then
      splitWords m fuel ('\x7b' :: rest) (some (word.getD [] ++ ['$'])) quote
    else
      let name := rest.takeWhile (· ≠ '\x7d')
      let value := (m.value? name).getD []
      splitWords m fuel (rest.drop (name.length + 1)) (some (word.getD [] ++ value)) quote
  | fuel + 1, ch :: rest, word, quote =>
    match quote with
    | some q =>
      if ch = q then splitWords m fuel rest (some (word.getD [])) none
      else splitWords m fuel rest (some (word.getD [] ++ [ch])) quote
    | none =>
      if ch = '\'' || ch = '"' then splitWords m fuel rest (some (word.getD [])) (some ch)
      else if isSpace ch then word.toList ++ splitWords m fuel rest none none
      else splitWords m fuel rest (some (word.getD [] ++ [ch])) none

def withSplit (m : Machine) (args : List Octets) : List Octets :=
  let split (s : Octets) : List Octets := splitWords m (s.length + 1) s none none
  match args with
  | ['-', 'S'] :: s :: rest => split s ++ rest
  | ('-' :: 'S' :: s) :: rest => split s ++ rest
  | arg :: rest =>
    let long := "--split-string=".toList
    if long.isPrefixOf arg then split (arg.drop long.length) ++ rest else args
  | [] => []

def putVariable (word : Octets) : Act Unit :=
  match Octets.cut? '=' word with
  | some (name, value) =>
    modify fun m => m.setVariable name { value := some value, isExported := true }
  | none => pure ()

def printVariables (mark : Char) : Act Unit := do
  for (name, value) in (← get).environment do Act.put (name ++ '=' :: value ++ [mark])

def env (c : Call) : Act Nat := do
  let g ← c.optionsOf [.plain "i" "ignore-environment", .plain "0" "null", .valued "u" "unset",
    .valued "C" "chdir", .valued "S" "split-string", .plain "v" "debug",
    .optional "" "block-signal", .optional "" "default-signal", .optional "" "ignore-signal",
    .plain "" "list-signal-handling"] 125 false (withSplit (← get) c.args)
  let (isBare, operands) := match g.operands with
    | ['-'] :: rest => (true, rest)
    | operands => (g.has "ignore-environment", operands)
  if isBare then modify fun m => { m with bindings := [] }
  for name in g.values "unset" do
    if name.isEmpty || name.contains '=' then
      c.fail 125 ("cannot unset ".toList ++ Quote.always name ++ ": Invalid argument".toList)
    modify (·.dropVariable name)
  let settings := operands.takeWhile (·.contains '=')
  settings.forM putVariable
  let words := operands.drop settings.length
  match g.value? "chdir" with
  | none => pure ()
  | some p =>
    if words.isEmpty then c.misuseText 125 "must specify command with --chdir (-C)"
    match (← get).storage.status true p with
    | .ok (l, .directory) => modify fun m => { m with storage := { m.storage with place := l } }
    | .ok _ =>
      c.fail 125 ("cannot change directory to ".toList ++ Quote.always p
        ++ ": Not a directory".toList)
    | .error e =>
      c.fail 125 ("cannot change directory to ".toList ++ Quote.always p ++ ": ".toList
        ++ Octets.ofString e.text)
  if words.isEmpty then
    printVariables (if g.has "null" then '\x00' else '\n')
    return 0
  if g.has "null" then c.misuseText 125 "cannot specify --null (-0) with command"
  if g.has "debug" then
    Act.complainOctets ("executing: ".toList ++ words.headD [])
    for (w, i) in words.zipIdx do
      Act.complainOctets ("   arg[".toList ++ Octets.ofNat i ++ "]= ".toList ++ Quote.always w)
  let isSpaced := (words.headD []).any isSpace
  match ← c.become words with
  | .ok status => return status
  | .error e =>
    c.complain (Quote.always (words.headD []) ++ ": ".toList ++ Octets.ofString e.text)
    if isSpaced && e = .noEntry then
      c.complainText "use -[v]S to pass options in shebang lines"
    return if e = .noEntry then 127 else 126

def printenv (c : Call) : Act Nat := do
  let g ← c.options [.plain "0" "null"] 2 false
  let mark := if g.has "null" then '\x00' else '\n'
  if g.operands.isEmpty then
    printVariables mark
    return 0
  c.each g.operands fun name => do
    match (← get).environment.lookup name with
    | some value =>
      Act.put (value ++ [mark])
      return true
    | none => return false

end DeployForge.Shell.Utility
