import DeployForge.Shell.Call
import DeployForge.Shell.Utility.Quote

namespace DeployForge.Shell

inductive Takes where
  | nothing
  | value
  | maybe
  deriving DecidableEq, Repr

structure Flag where
  letter : Option Char := none
  long : String := ""
  takes : Takes := .nothing

structure Given where
  options : List (String × Option Octets) := []
  operands : List Octets := []

namespace Given

def has (g : Given) (name : String) : Bool := g.options.any (·.1 = name)

def value? (g : Given) (name : String) : Option Octets :=
  (g.options.reverse.find? (·.1 = name)).bind (·.2)

def values (g : Given) (name : String) : List Octets :=
  g.options.filterMap fun (n, v) => if n = name then v else none

def lastOf? (g : Given) (names : List String) : Option String :=
  (g.options.reverse.find? fun (n, _) => names.contains n).map (·.1)

end Given

namespace Flag

def key (f : Flag) : String := if f.long.isEmpty then (f.letter.map toString).getD "" else f.long

def plain (letters long : String) : Flag := { letter := letters.toList.head?, long }

def valued (letters long : String) : Flag :=
  { letter := letters.toList.head?, long, takes := .value }

def optional (letters long : String) : Flag :=
  { letter := letters.toList.head?, long, takes := .maybe }

def letters (s : String) : List Flag :=
  let rec go : List Char → List Flag
    | c :: ':' :: rest => { letter := some c, takes := .value } :: go rest
    | c :: rest => { letter := some c } :: go rest
    | [] => []
  go s.toList

end Flag

inductive Misuse where
  | unknownLetter (c : Char)
  | unknownName (s : Octets)
  | ambiguous (s : Octets) (names : List String)
  | missingValue (c : Char)
  | missingLongValue (name : String)
  | needlessValue (name : String)
  deriving DecidableEq, Repr

namespace Misuse

def text : Misuse → Octets
  | unknownLetter c => "invalid option -- '".toList ++ [c, '\'']
  | unknownName s => "unrecognized option '--".toList ++ s ++ ['\'']
  | ambiguous s names =>
    "option '--".toList ++ s ++ "' is ambiguous; possibilities:".toList
      ++ names.flatMap fun n => (" '--" ++ n ++ "'").toList
  | missingValue c => "option requires an argument -- '".toList ++ [c, '\'']
  | missingLongValue name => ("option '--" ++ name ++ "' requires an argument").toList
  | needlessValue name => ("option '--" ++ name ++ "' doesn't allow an argument").toList

end Misuse

namespace Options

def findLong (flags : List Flag) (name : Octets) : Except Misuse Flag :=
  let named := flags.filter (!·.long.isEmpty)
  match named.find? (·.long.toList = name) with
  | some f => .ok f
  | none =>
    match named.filter fun f => name.isPrefixOf f.long.toList with
    | [] => .error (.unknownName name)
    | [f] => .ok f
    | f :: rest =>
      if rest.all (·.letter = f.letter) && f.letter.isSome then .ok f
      else .error (.ambiguous name ((f :: rest).map (·.long)))

def readLetters (flags : List Flag) : List Char → List Octets →
    Except Misuse (List (String × Option Octets) × List Octets)
  | [], words => .ok ([], words)
  | c :: cs, words =>
    match flags.find? (·.letter = some c) with
    | none => .error (.unknownLetter c)
    | some f =>
      match f.takes with
      | .nothing => do
        let (more, words) ← readLetters flags cs words
        return ((f.key, none) :: more, words)
      | .maybe => .ok ([(f.key, if cs.isEmpty then none else some cs)], words)
      | .value =>
        if !cs.isEmpty then .ok ([(f.key, some cs)], words)
        else
          match words with
          | w :: words => .ok ([(f.key, some w)], words)
          | [] => .error (.missingValue c)

def readLong (flags : List Flag) (word : Octets) (words : List Octets) :
    Except Misuse ((String × Option Octets) × List Octets) := do
  let (name, value?) := match Octets.cut? '=' word with
    | some (name, value) => (name, some value)
    | none => (word, none)
  let f ← findLong flags name
  match f.takes, value?, words with
  | .nothing, some _, _ => .error (.needlessValue f.long)
  | .value, none, [] => .error (.missingLongValue f.long)
  | .value, none, w :: words => .ok ((f.key, some w), words)
  | _, value?, words => .ok ((f.key, value?), words)

/-- Options and operands. Options may stand behind operands if `mixes` says so. -/
def read (flags : List Flag) (mixes : Bool) : Nat → List Octets → Except Misuse Given
  | 0, _ | _, [] => .ok {}
  | fuel + 1, word :: words =>
    match word with
    | ['-', '-'] => .ok { operands := words }
    | '-' :: '-' :: long => do
      let (option, words) ← readLong flags long words
      let g ← read flags mixes fuel words
      return { g with options := option :: g.options }
    | '-' :: c :: cs => do
      let (options, words) ← readLetters flags (c :: cs) words
      let g ← read flags mixes fuel words
      return { g with options := options ++ g.options }
    | _ =>
      if mixes then do
        let g ← read flags mixes fuel words
        return { g with operands := word :: g.operands }
      else .ok { operands := word :: words }

end Options

namespace Call

def abort {α : Type} (status : Nat) : Act α := do
  Act.setStatus status
  throw .exit

def fail {α : Type} (c : Call) (status : Nat) (text : Octets) : Act α := do
  c.complain text
  abort status

def failText {α : Type} (c : Call) (status : Nat) (text : String) : Act α :=
  c.fail status (.ofString text)

def hint {α : Type} (c : Call) (status : Nat) : Act α := do
  Act.complainOctets ("Try '".toList ++ c.name ++ " --help' for more information.".toList)
  abort status

def misuse {α : Type} (c : Call) (status : Nat) (text : Octets) : Act α := do
  c.complain text
  c.hint status

def misuseText {α : Type} (c : Call) (status : Nat) (text : String) : Act α :=
  c.misuse status (.ofString text)

def optionsOf (c : Call) (flags : List Flag) (status : Nat) (mixes : Bool) (args : List Octets) :
    Act Given := do
  let common := [Flag.plain "" "help", Flag.plain "" "version"]
  match Options.read (flags ++ common) mixes (args.length + 1) args with
  | .ok g => if g.has "help" || g.has "version" then abort 0 else return g
  | .error e => c.misuse status e.text

def options (c : Call) (flags : List Flag) (status : Nat := 1) (mixes : Bool := true) : Act Given :=
  c.optionsOf flags status mixes c.args

def chosen (c : Call) (option : String) (choices : List (List String)) (s : Octets)
    (status : Nat := 1) : Act String := do
  let wrong (what : String) : Act String := do
    c.complain (what.toList ++ " argument ".toList ++ Quote.always s ++ " for '".toList
      ++ option.toList ++ ['\''])
    let lines := choices.map fun words =>
      "  - " ++ String.intercalate ", " (words.map fun w => "'" ++ w ++ "'")
    Act.complain (String.intercalate "\n" ("Valid arguments are:" :: lines))
    c.hint status
  let meant (test : String → Bool) : List String :=
    (choices.filter (·.any test)).map fun words => words.headD ""
  match meant (·.toList = s), meant (s.isPrefixOf ·.toList) with
  | w :: _, _ | [], [w] => return w
  | [], [] => wrong "invalid"
  | [], _ => wrong "ambiguous"

def missingOperand {α : Type} (c : Call) (status : Nat := 1) : Act α :=
  c.misuseText status "missing operand"

def missingAfter {α : Type} (c : Call) (operand : Octets) (status : Nat := 1) : Act α :=
  c.misuse status ("missing operand after ".toList ++ Quote.text operand)

def extraOperand {α : Type} (c : Call) (operand : Octets) (status : Nat := 1) : Act α :=
  c.misuse status ("extra operand ".toList ++ Quote.text operand)

end Call

end DeployForge.Shell
