import DeployForge.Shell.Field
import DeployForge.Shell.Arithmetic

namespace DeployForge.Shell.Builtin

open Act

def number (s : Octets) : Act Nat := do
  let t := Octets.dropRightWhile isSpace (s.dropWhile isSpace)
  match Octets.int? t with
  | some n => if 0 ≤ n && n ≤ 2147483647 then return n.toNat else fail ("Illegal number: ".toList ++ s)
  | none => fail ("Illegal number: ".toList ++ s)

def lettersFrom (allowed : String) : List Octets → Act (List Char × List Octets)
  | [] => return ([], [])
  | ['-', '-'] :: rest => return ([], rest)
  | ('-' :: c :: cs) :: rest => do
    match (c :: cs).find? (!allowed.toList.contains ·) with
    | some d => fail ("Illegal option -".toList ++ [d])
    | none =>
      let (more, rest) ← lettersFrom allowed rest
      return (c :: cs ++ more, rest)
  | words => return ([], words)

def quoted (s : Octets) : Octets :=
  let rec go : Nat → Octets → Octets
    | 0, _ => []
    | fuel + 1, s =>
      let plain := s.takeWhile (· ≠ '\'')
      let rest := s.drop plain.length
      let quotes := rest.takeWhile (· = '\'')
      let first := '\'' :: plain ++ ['\'']
      if rest.isEmpty then first
      else
        let after := rest.drop quotes.length
        first ++ '"' :: quotes ++ ['"'] ++ if after.isEmpty then [] else go fuel after
  go (s.length + 1) s

def binding (s : Octets) : Act (Octets × Option Octets) := do
  let name := s.takeWhile (· ≠ '=')
  if !Word.isName name then fail (name ++ ": bad variable name".toList)
  match s.drop name.length with
  | _ :: value => return (name, some value)
  | [] => return (name, none)

def listVariables (lead : Octets) (test : Variable → Bool) : Act Unit := do
  let m ← get
  let shown := (m.bindings.filter fun (_, v) => test v).mergeSort fun (a, _) (b, _) =>
    Octets.atMost a b
  for (name, v) in shown do
    let value := (v.value.map fun value => '=' :: quoted value).getD []
    putLine ((if lead.isEmpty then [] else lead ++ [' ']) ++ name ++ value)

def assignTo (word value : Octets) : Act Unit := do
  let (name, _) ← binding word
  assign name value

def markVariables (lead : String) (mark : Variable → Variable) (isMarked : Variable → Bool)
    (args : List Octets) : Act Nat := do
  let (letters, names) ← lettersFrom "p" args
  if letters.contains 'p' || names.isEmpty then listVariables lead.toList isMarked
  else
    for arg in names do
      let (name, value?) ← binding arg
      match value? with
      | some value => assign name value
      | none => pure ()
      modify fun m => m.setVariable name (mark ((m.binding? name).getD {}))
  return 0

def export_ : List Octets → Act Nat :=
  markVariables "export" (fun v => { v with isExported := true }) (·.isExported)

def readonly : List Octets → Act Nat :=
  markVariables "readonly" (fun v => { v with isReadOnly := true }) (·.isReadOnly)

def hide (name : Octets) : Act Unit := modify fun m =>
  match m.hidden with
  | frame :: frames =>
    if frame.any (·.1 = name) then m
    else { m with hidden := ((name, m.binding? name) :: frame) :: frames }
  | [] => m

def local_ (args : List Octets) : Act Nat := do
  if (← get).functionDepth = 0 then failText "not in a function"
  for arg in args do
    if arg = ['-'] then pure ()
    else
      let (name, value?) ← binding arg
      hide name
      match value? with
      | some value => assign name value
      | none => pure ()
  return 0

def dropVariable (name : Octets) : Act Unit := do
  match (← get).binding? name with
  | some { isReadOnly := true, .. } => fail (name ++ ": is read only".toList)
  | _ => modify (·.dropVariable name)

def unset (args : List Octets) : Act Nat := do
  let (letters, names) ← lettersFrom "vf" args
  for name in names do
    if letters.getLast? = some 'f' then
      modify fun m => { m with functions := m.functions.filter (·.1 ≠ name) }
    else
      discard (binding name)
      dropVariable name
  return 0

def options : List (String × Option Char) := [
  ("errexit", some 'e'), ("noglob", some 'f'), ("ignoreeof", some 'I'), ("interactive", some 'i'),
  ("monitor", some 'm'), ("noexec", some 'n'), ("stdin", some 's'), ("xtrace", some 'x'),
  ("verbose", some 'v'), ("vi", some 'V'), ("emacs", some 'E'), ("noclobber", some 'C'),
  ("allexport", some 'a'), ("notify", some 'b'), ("nounset", some 'u'), ("privileged", some 'p'),
  ("nolog", none), ("debug", none)]

def turn (on : Bool) (c : Char) : Act Unit := modify fun m =>
  let letters := m.letters.filter (· ≠ c)
  { m with letters := if on then c :: letters else letters }

def turnLetter (on : Bool) (c : Char) : Act Unit := do
  if options.any (·.2 = some c) then turn on c else fail ("Illegal option -".toList ++ [c])

def listOptions (asCommands : Bool) : Act Unit := do
  let m ← get
  let isOn (c? : Option Char) : Bool := (c?.map m.has).getD false
  if asCommands then
    for (name, c?) in options do
      putText ((if isOn c? then "set -o " else "set +o ") ++ name ++ "\n")
  else
    putText "Current option settings\n"
    for (name, c?) in options do
      putLine (Octets.padRight ' ' 16 name.toList ++ (if isOn c? then "on" else "off").toList)

/-- Sets options as long as words name some. What is left are the new arguments, if any are. -/
def setOptions (isCommandLine : Bool) : Nat → List Octets → Act (Option (List Octets))
  | 0, _ => throw .exhausted
  | _, [] => return none
  | fuel + 1, word :: rest => do
    match word with
    | ['-'] =>
      if !isCommandLine then
        turn false 'x'
        turn false 'v'
      return if rest.isEmpty then none else some rest
    | ['-', '-'] => return some rest
    | mark :: letters =>
      if mark = '-' || mark = '+' then
        let on := mark = '-'
        let mut rest := rest
        for c in letters do
          if c = 'o' then
            match rest with
            | [] => listOptions (!on)
            | name :: more =>
              match options.lookup (String.ofList name) with
              | some c? => if let some c := c? then turn on c
              | none => fail ("Illegal option -o ".toList ++ name)
              rest := more
          else if !(isCommandLine && (c = 'c' || c = 'l')) then turnLetter on c
        setOptions isCommandLine fuel rest
      else return some (word :: rest)
    | [] => return some (word :: rest)

def set_ (args : List Octets) : Act Nat := do
  if args.isEmpty then listVariables [] (·.value.isSome)
  else
    match ← setOptions false (args.length + 1) args with
    | some arguments => modify fun m => { m with arguments, optionIndex := 1, optionOffset := none }
    | none => pure ()
  return 0

def shift (args : List Octets) : Act Nat := do
  let n ← match args with
    | s :: _ => number s
    | [] => pure 1
  let m ← get
  if m.arguments.length < n then failText "can't shift that many"
  set { m with arguments := m.arguments.drop n, optionIndex := 1, optionOffset := none }
  return 0

def lineOf (raw : Bool) : Nat → Expansion → Nat → Octets → Expansion × Octets × Bool
  | 0, e, start, s => (e.record start false, s, false)
  | _, e, start, [] => (e.record start false, [], false)
  | fuel + 1, e, start, c :: rest =>
    if c = '\x00' then lineOf raw fuel e start rest
    else if c = '\n' then (e.record start false, rest, true)
    else if c = '\\' && !raw then
      match rest with
      | '\n' :: rest => lineOf raw fuel e start rest
      | d :: rest =>
        let e := (e.record start false).push (.char d true)
        lineOf raw fuel e e.cells.size rest
      | [] => (e.record start false, [], false)
    else lineOf raw fuel (e.push (.char c false)) start rest

def read (args : List Octets) : Act Nat := do
  let args := match args with
    | ['-', 'p'] :: _ :: rest => rest
    | args => args
  let (letters, names) ← lettersFrom "r" args
  if names.isEmpty then failText "arg count"
  let m ← get
  match m.readable 0 with
  | .error _ =>
    for name in names do assignTo name []
    return 1
  | .ok s =>
    let (e, rest, isEnded) := lineOf (letters.contains 'r') (s.length + 1) {} 0 s
    set (m.advance 0 (s.length - rest.length))
    let fields := (Field.split m.separators (some names.length) e).map Field.plain
    for (name, i) in names.zipIdx do
      assignTo name ((fields[i]?).getD [])
    return if isEnded then 0 else 1

inductive NextOption where
  | none
  | unknown (letter : Char)
  | unvalued (letter : Char)
  | found (letter : Char) (value : Octets)

def behindLetter? (c : Char) : Octets → Option Octets
  | [] => none
  | d :: ':' :: rest => if d = c then some (':' :: rest) else behindLetter? c rest
  | d :: rest => if d = c then some rest else behindLetter? c rest

def nextOption (letters : Octets) (words : List Octets) (index : Nat) (offset : Option Nat) :
    NextOption × Nat × Option Nat :=
  let word := if index ≤ 1 then [] else (words[index - 2]?).getD []
  let left := (offset.map word.drop).getD []
  let started : Option (Octets × Nat) :=
    if !left.isEmpty then some (left, index)
    else
      match words[index - 1]? with
      | some ['-', '-'] => some ([], index + 1)
      | some ('-' :: c :: cs) => some (c :: cs, index + 1)
      | _ => none
  match started with
  | none => (.none, index, none)
  | some ([], index) => (.none, index, none)
  | some (c :: cs, index) =>
    let here := some (((words[index - 2]?).getD []).length - cs.length)
    match behindLetter? c letters with
    | none => (.unknown c, index, here)
    | some (':' :: _) =>
      match cs, words[index - 1]? with
      | [], some value => (.found c value, index + 1, none)
      | [], none => (.unvalued c, index, none)
      | value, _ => (.found c value, index, none)
    | some _ => (.found c [], index, here)

def getopts (args : List Octets) : Act Nat := do
  match args with
  | letters :: name :: given =>
    let m ← get
    let words := if given.isEmpty then m.arguments else given
    let isBeyond := words.length + 1 < m.optionIndex
    let (next, index, offset) := nextOption letters words (if isBeyond then 1 else m.optionIndex)
      (if isBeyond then none else m.optionOffset)
    let isQuiet := letters.head? = some ':'
    let refused (c : Char) (text : String) : Act Unit := do
      if isQuiet then assign "OPTARG".toList [c]
      else
        complainOctets text.toList
        dropVariable "OPTARG".toList
    let shown ← match next with
      | .none => pure '?'
      | .unknown c =>
        refused c ("Illegal option -" ++ toString c)
        pure '?'
      | .unvalued c =>
        refused c ("No arg for -" ++ toString c ++ " option")
        pure (if isQuiet then ':' else '?')
      | .found c value =>
        assign "OPTARG".toList value
        pure c
    assign "OPTIND".toList (.ofNat index)
    modify fun m => { m with optionIndex := index, optionOffset := offset }
    assignTo name [shown]
    return match next with
      | .none => 1
      | _ => 0
  | _ => failText "Usage: getopts optstring var [arg]"

end DeployForge.Shell.Builtin
