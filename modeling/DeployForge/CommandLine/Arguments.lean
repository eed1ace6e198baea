import DeployForge.Batch

namespace DeployForge.CommandLine

inductive Refusal where
  | usage
  | help
  | version
  deriving DecidableEq, Repr

inductive Tail where
  | none
  | afterDashes
  /-- From the first further word on, everything is passed on as it is. -/
  | forwarded
  deriving DecidableEq, Repr

structure Grammar where
  flags : List String
  words : Nat
  tail : Tail := .none

namespace Grammar

def common : List String := ["verbose"]

def top : Grammar := ⟨common ++ ["version"], 0, .none⟩

def ofAction : Action → Grammar
  | .build => ⟨common ++ ["all", "testnet"], 1, .afterDashes⟩
  | .test => ⟨common ++ ["all", "gas-report"], 1, .afterDashes⟩
  | .run => ⟨common ++ ["testnet"], 1, .forwarded⟩
  | .deployFunctions => ⟨common ++ ["all", "test"], 1, .none⟩

def isFlag (g : Grammar) (name : String) : Bool := name = "help" || g.flags.contains name

def letter? (g : Grammar) (c : Char) : Option String :=
  if c = 'h' then some "help"
  else if c = 'v' then some "verbose"
  else if c = 'V' && g.isFlag "version" then some "version"
  else none

def isLetter (g : Grammar) (c : Char) : Bool := c = 'p' || (g.letter? c).isSome

end Grammar

structure Reading where
  flags : List String := []
  project : Option String := none
  words : List String := []
  rest : List String := []
  deriving DecidableEq, Repr

namespace Reading

def flag (r : Reading) (name : String) : Except Refusal Reading :=
  if name = "help" then .error .help
  else if name = "version" then .error .version
  else if r.flags.contains name then .error .usage
  else .ok { r with flags := name :: r.flags }

def inProject (r : Reading) (dir : List Char) : Except Refusal Reading :=
  if dir.isEmpty || r.project.isSome then .error .usage
  else .ok { r with project := some (.ofList dir) }

def has (r : Reading) (name : String) : Bool := r.flags.contains name

end Reading

inductive Shape where
  | dashes
  | long (name : String) (value : Option (List Char))
  | short (letters : List Char)
  | word
  deriving DecidableEq, Repr

def Shape.ofChars : List Char → Shape
  | ['-', '-'] => dashes
  | '-' :: '-' :: s =>
    let name := s.takeWhile (· ≠ '=')
    match s.drop name.length with
    | _ :: value => long (.ofList name) (some value)
    | [] => long (.ofList name) .none
  | '-' :: c :: s => short (c :: s)
  | _ => word

namespace Grammar

def knows (g : Grammar) : Shape → Bool
  | .long name _ => name = "project" || g.isFlag name
  | .short letters => letters.all g.isLetter
  | _ => true

def letters (g : Grammar) : Reading → List Char → Except Refusal (Reading × Bool)
  | r, [] => .ok (r, false)
  | r, 'p' :: s =>
    match s with
    | [] => .ok (r, true)
    | '=' :: dir | dir => do return (← r.inProject dir, false)
  | r, c :: s =>
    match g.letter? c with
    | some name => do g.letters (← r.flag name) s
    | none => .error .usage

def option (g : Grammar) (r : Reading) : Shape → Except Refusal (Reading × Bool)
  | .long name value? =>
    if name = "project" then
      match value? with
      | some dir => do return (← r.inProject dir, false)
      | none => .ok (r, true)
    else if g.isFlag name && value?.isNone then do return (← r.flag name, false)
    else .error .usage
  | .short letters => g.letters r letters
  | _ => .error .usage

def trailing (g : Grammar) (r : Reading) (args : List String) : Except Refusal Reading :=
  match g.tail with
  | .afterDashes => .ok { r with rest := args }
  | tail =>
    let missing := g.words - r.words.length
    let rest := args.drop missing
    if tail = .none && !rest.isEmpty then .error .usage
    else .ok { r with words := r.words ++ args.take missing, rest }

/-- Reads the words of one part. The flag says that a directory is expected next. -/
def read (g : Grammar) : Bool → Reading → List String → Except Refusal Reading
  | true, _, [] => .error .usage
  | false, r, [] => .ok r
  | expects, r, arg :: rest =>
    let shape := Shape.ofChars arg.toList
    let forwards := g.tail = .forwarded && g.words ≤ r.words.length && !g.knows shape
    match expects, shape with
    | true, .dashes => .error .usage
    | true, .word => do g.read false (← r.inProject arg.toList) rest
    | true, _ =>
      if forwards then do g.read false (← r.inProject arg.toList) rest else .error .usage
    | false, .dashes => g.trailing r rest
    | false, .word =>
      if r.words.length < g.words then g.read false { r with words := r.words ++ [arg] } rest
      else if g.tail = .forwarded then .ok { r with rest := arg :: rest }
      else .error .usage
    | false, shape =>
      if forwards then .ok { r with rest := arg :: rest }
      else do
        let (r, expects) ← g.option r shape
        g.read expects r rest

end Grammar

def action? : String → Option Action
  | "build" => some .build
  | "test" => some .test
  | "run" => some .run
  | "get-deploy-functions" | "get_deploy_functions" => some .deployFunctions
  | _ => none

structure Invocation where
  action : Action
  reading : Reading
  project : String
  deriving Repr

namespace Invocation

def isComplete (action : Action) (r : Reading) : Bool :=
  !(r.has "all" && !r.words.isEmpty) && !(action = .run && r.words.isEmpty)

/-- The part of an action. The directory that is named last counts. -/
def ofPart (before : Reading) (action : Action) (args : List String) :
    Except Refusal Invocation := do
  let r ← (Grammar.ofAction action).read false {} args
  if isComplete action r then return ⟨action, r, (r.project.or before.project).getD "."⟩
  else .error .usage

def helpOn : List String → Except Refusal Invocation
  | [] => .error .help
  | [arg] => .error (if (action? arg).isSome || arg = "help" then .help else .usage)
  | _ => .error .usage

def readFrom : Bool → Reading → List String → Except Refusal Invocation
  | _, _, [] => .error .usage
  | true, r, arg :: rest =>
    match Shape.ofChars arg.toList with
    | .word => do readFrom false (← r.inProject arg.toList) rest
    | _ => .error .usage
  | false, r, arg :: rest =>
    match Shape.ofChars arg.toList with
    | .word =>
      match action? arg with
      | some action => ofPart r action rest
      | none => if arg = "help" then helpOn rest else .error .usage
    | shape => do
      let (r, expects) ← Grammar.top.option r shape
      readFrom expects r rest

def read (args : List String) : Except Refusal Invocation := readFrom false {} args

def unselected : String := "Specify a target name, \x60all\x60, or --all"

def selection (target : Option String) (all : Bool) : Except String Selection :=
  if all then .ok .all
  else
    match target with
    | some name => .ok (.named name)
    | none => .error unselected

def request (i : Invocation) : Except String BatchRequest := do
  let r := i.reading
  let target := r.words.head?
  let isAll := r.has "all" || i.action = .deployFunctions && target = some "all"
  return {
    action := i.action
    selection := ← selection target isAll
    options := {
      testnet := r.has "testnet" || i.action = .run && r.rest.contains BatchRequest.testnetFlag
      gasReport := r.has "gas-report"
      testConstants := r.has "test"
      extraArgs := r.rest } }

end Invocation

end DeployForge.CommandLine
