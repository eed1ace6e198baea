import DeployForge.Shell.Builtin.Print
import DeployForge.Shell.Condition
import DeployForge.Shell.Interpreter

namespace DeployForge.Shell

inductive Step where
  | goOn
  | again
  | leave
  deriving DecidableEq, Repr

structure Plan where
  words : List Octets := []
  left : List Word := []
  isSpecial : Bool := false
  skipsFunctions : Bool := false
  usesDefaultPath : Bool := false
  takesBindings : Bool := false

namespace Plan

def path (p : Plan) (m : Machine) : Option Octets :=
  if p.usesDefaultPath then some Search.defaultPath else m.value? "PATH".toList

def find (p : Plan) (m : Machine) (name : Octets) : Search.Found :=
  Search.find m (p.path m) p.skipsFunctions name

end Plan

namespace Evaluation

open Act

def builtins : List (String × (List Octets → Act Nat)) := [
  (":", Builtin.nothing), ("true", Builtin.nothing), ("false", Builtin.failing),
  ("echo", Builtin.echo), ("printf", Builtin.printf), ("export", Builtin.export_),
  ("readonly", Builtin.readonly), ("local", Builtin.local_), ("unset", Builtin.unset),
  ("set", Builtin.set_), ("shift", Builtin.shift), ("read", Builtin.read),
  ("getopts", Builtin.getopts), ("exit", Builtin.exit), ("return", Builtin.return_),
  ("break", Builtin.skip .broken), ("continue", Builtin.skip .continued), ("cd", Builtin.cd),
  ("chdir", Builtin.cd), ("pwd", Builtin.pwd), ("kill", Builtin.kill), ("trap", Builtin.trap),
  ("umask", Builtin.umask), ("alias", Builtin.alias_), ("unalias", Builtin.unalias),
  ("times", Builtin.times), ("ulimit", Builtin.ulimit), ("test", Condition.check),
  ("[", Condition.bracketed), ("type", Search.describeAll), ("hash", Search.hash),
  ("command", Search.command), ("jobs", Builtin.jobs), ("bg", Builtin.nothing),
  ("fg", Builtin.nothing)]

def enterLine (line : Nat) : Act Unit := modify fun m => { m with line }

def loopPart (work : Act Unit) : Act Step := fun m =>
  match work m with
  | (.ok (), m) => (.ok .goOn, m)
  | (.error (.broken 1), m) => (.ok .leave, m)
  | (.error (.continued 1), m) => (.ok .again, m)
  | (.error (.broken n), m) => (.error (.broken (n - 1)), m)
  | (.error (.continued n), m) => (.error (.continued (n - 1)), m)
  | (.error stop, m) => (.error stop, m)

def deeper (work : Act Unit) : Act Unit := do
  let depth := (← get).loopDepth
  modify fun m => { m with loopDepth := depth + 1 }
  work.andThen fun m => { m with loopDepth := depth }

def unhide (m : Machine) : Machine :=
  match m.hidden with
  | frame :: frames =>
    frame.foldl (fun m (name, v?) => m.restore name v?) { m with hidden := frames }
  | [] => m

/-- Work with variables of its own, which are taken back unless the whole shell ends. -/
def sheltered (work : Act Unit) : Act Unit := fun m =>
  match work { m with hidden := [] :: m.hidden } with
  | (.error stop, m) =>
    match stop with
    | .broken _ | .continued _ | .returned => (.error stop, unhide m)
    | _ => (.error stop, m)
  | (.ok (), m) => (.ok (), unhide m)

def bindOne (hides exports : Bool) (s : Octets) : Act Unit := do
  let name := s.takeWhile (· ≠ '=')
  if hides then Builtin.hide name
  assign name (s.drop (name.length + 1))
  if hides || exports then
    modify fun m => m.setVariable name { (m.binding? name).getD {} with isExported := true }

def inFunction (arguments : List Octets) (work : Act Unit) : Act Unit := fun m =>
  let inner := { m with
    arguments
    optionIndex := 1
    optionOffset := none
    functionDepth := m.functionDepth + 1
    loopDepth := 0 }
  let outer (n : Machine) : Machine := { n with
    arguments := m.arguments
    optionIndex := m.optionIndex
    optionOffset := m.optionOffset
    functionDepth := m.functionDepth
    loopDepth := m.loopDepth }
  match work inner with
  | (.error .returned, n) => (.ok (), outer n)
  | (result, n) => (result, outer n)

def named (isSpecial : Bool) (name : Octets) (work : Act Nat) : Act Unit := do
  let before := (← get).command
  modify fun m => { m with command := some name, writeFault := none }
  let checked : Act Unit := do
    let status ← work
    match (← get).writeFault with
    | some _ =>
      warn (name ++ ": I/O error".toList)
      setStatus (status ||| 1)
    | none => setStatus status
  let restored := checked.andThen fun m => { m with command := before, writeFault := none }
  if isSpecial then restored else guarded restored

def exitOnFailure (work : Act Unit) : Act Unit := fun m =>
  let failed (m : Machine) : Bool := m.has 'e' && m.status ≠ 0
  match work m with
  | (.ok (), m) => if failed m then (.error .exit, m) else (.ok (), m)
  | (.error .returned, m) => if failed m then (.error .exit, m) else (.error .returned, m)
  | result => result

variable (i : Interpreter)

def complete (p : Plan) : Act Plan := do
  let fs ← Expansion.allFields i.substitute p.takesBindings p.left
  return { p with words := p.words ++ fs, left := [] }

mutual

def plan : Nat → Bool → Plan → Act Plan
  | 0, _, _ => throw .exhausted
  | fuel + 1, isFirst, p => do
    match p.words, p.find (← get) (p.words.headD []) with
    | name :: rest, .builtin =>
      let p := { p with
        takesBindings := Search.bindingNames.contains (String.ofList name)
        isSpecial := if isFirst then Search.isSpecial name else p.isSpecial }
      if name = "command".toList then strip fuel p [] rest else complete i p
    | _, _ => complete i p

def strip : Nat → Plan → List Octets → List Octets → Act Plan
  | 0, _, _, _ => throw .exhausted
  | fuel + 1, p, done, rest => do
    let (rest, left) ←
      if rest.isEmpty then Expansion.fill i.substitute p.left else pure (rest, p.left)
    let p := { p with left }
    let asWritten : Plan := { p with words := "command".toList :: done.reverse ++ rest }
    match rest with
    | [] => complete i asWritten
    | ['-', '-'] :: more =>
      let (more, left) ←
        if more.isEmpty then Expansion.fill i.substitute left else pure (more, left)
      if more.isEmpty then complete i { asWritten with left }
      else plan fuel false { p with words := more, left, skipsFunctions := true }
    | ('-' :: c :: cs) :: more =>
      if (c :: cs).all (· = 'p') then
        strip fuel { p with usesDefaultPath := true } (('-' :: c :: cs) :: done) more
      else complete i asWritten
    | _ => plan fuel false { p with words := rest, skipsFunctions := true }

end

def assignAll (hides exports : Bool) : List Word → Act (List Octets)
  | [] => return []
  | w :: ws => do
    let s ← Expansion.text i.substitute .binding w
    bindOne hides exports s
    return s :: (← assignAll hides exports ws)

def traceStart : Act Octets := do
  let m ← get
  let s := m.valueOr "PS4" ""
  match Parser.quoted (Interpreter.reader m { rest := s }) with
  | .ok (w, r) =>
    set { m with nextKey := r.nextKey, letters := m.letters.filter (· ≠ 'x') }
    let s ← Expansion.text i.substitute { isQuoted := true } w
    modify fun n => { n with letters := m.letters }
    return s
  | .error _ => return s

def trace (errors : Option Nat) (words : List Octets) : Act Unit := do
  if (← get).has 'x' then
    let line := (← traceStart i) ++ Octets.join [' '] words ++ ['\n']
    modify fun m =>
      let target := (errors.map (m.connect 2)).getD m
      match target.write 2 line with
      | .ok written => { written with table := m.table }
      | .error _ => m

def builtin (setting : Setting) (isSpecial : Bool) (name : Octets) (args : List Octets) :
    Act Unit :=
  named isSpecial name (match String.ofList name, args with
    | "eval", _ => i.runText { isTested := setting.isTested } (Octets.join [' '] args)
    | ".", file :: _ => i.source file
    | "exec", _ :: _ => do
      i.replace args
      return 0
    | "wait", _ => i.wait args
    | s, _ =>
      match builtins.lookup s with
      | some run => run args
      | none => return 0)

def simple (setting : Setting) (assignments words : List Word) (redirects : List Redirect) :
    Act Unit := do
  modify fun m => { m with substituted := none }
  let (fs, left) ← Expansion.fill i.substitute words
  let p ← plan i i.depth true { words := fs, left }
  let hides := !p.words.isEmpty && !p.isSpecial
  let isExec := p.words.head? = some "exec".toList
  let errors := (← get).table.lookup 2
  let run : Act Unit := do
    let texts ← assignAll i hides (isExec && 1 < p.words.length) assignments
    trace i errors (texts ++ p.words)
    let m ← get
    match p.words with
    | [] => setStatus (m.substituted.getD 0)
    | name :: args =>
      match p.find m name with
      | .builtin => builtin i setting p.isSpecial name args
      | .function body => inFunction args (i.evaluate { isTested := setting.isTested } body)
      | .program path => i.external setting path p.words
      | .missing e =>
        warn (name ++ ": ".toList ++ Search.faultText e)
        setStatus 127
  let work : Act Unit := do
    let ts ← Expansion.targets i.substitute redirects
    Redirection.restoring (if isExec then [] else redirects.map Redirect.fd) do
      if ← Redirection.attempt (Expansion.redirectAll i.substitute ts) then run
      else if p.isSpecial then throw .error
  if hides then sheltered work else work

def pipeline (setting : Setting) : Option Octets → List Command → Act Unit
  | _, [] => return ()
  | input?, c :: more => do
    let feed (m : Machine) : Machine := match input? with
      | some s => m.openAs 0 { channel := .text s, isWritable := false }
      | none => m
    let part := i.evaluate { setting with isLast := true } c
    if more.isEmpty then Interpreter.settle (← i.apart feed part)
    else
      let (ending, text) ← i.collect feed part
      tellSignal ending
      pipeline setting (some text) more

/-- Runs a loop from its test on. `status` is that of the body before. -/
def loop (setting : Setting) (test : Command) (until_ : Bool) (body : Command) :
    Nat → Nat → Act Unit
  | 0, _ => throw .exhausted
  | fuel + 1, status => do
    match ← loopPart (i.evaluate { isTested := true } test) with
    | .leave => setStatus status
    | .again => loop setting test until_ body fuel status
    | .goOn =>
      if ((← get).status = 0) = until_ then setStatus status
      else
        match ← loopPart (i.evaluate setting body) with
        | .leave => return ()
        | _ => loop setting test until_ body fuel (← get).status

def each (setting : Setting) (name : Octets) (body : Command) : List Octets → Act Unit
  | [] => return ()
  | item :: more => do
    assign name item
    match ← loopPart (i.evaluate setting body) with
    | .leave => return ()
    | _ => each setting name body more

def anyAccepts (s : Octets) : List Word → Act Bool
  | [] => return false
  | w :: ws => do
    let p ← Expansion.pattern i.substitute w
    if p.accepts s then return true else anyAccepts s ws

def arm? (s : Octets) : List (List Word × Command) → Act (Option Command)
  | [] => return none
  | (patterns, body) :: more => do
    if ← anyAccepts i s patterns then return some body else arm? s more

def nested (setting : Setting) (body : Command) (redirects : List Redirect) : Act Unit := do
  let ts ← Expansion.targets i.substitute redirects
  let work : Act Unit := do
    Expansion.redirectAll i.substitute ts
    i.evaluate { setting with isLast := true } body
  if setting.isLast && !(← get).hasTraps then
    work
    throw .exit
  else
    i.runReady
    Interpreter.settle (← i.apart id work)

def redirected (setting : Setting) (body : Command) (redirects : List Redirect) : Act Unit := do
  let ts ← Expansion.targets i.substitute redirects
  Redirection.restoring (redirects.map Redirect.fd) do
    if ← Redirection.attempt (Expansion.redirectAll i.substitute ts) then i.evaluate setting body

def perform (setting : Setting) (c : Command) : Act Unit := do
  let inner : Setting := { isTested := setting.isTested }
  let tested : Setting := { isTested := true }
  match c with
  | .skip => return ()
  | .simple line assignments words redirects =>
    enterLine line
    simple i setting assignments words redirects
  | .pipeline cs false =>
    i.runReady
    pipeline i setting none cs
  | .pipeline cs true =>
    modify (·.start (.pipeline cs false))
    setStatus 0
  | .background line body redirects =>
    enterLine line
    let whole := if redirects.isEmpty then body else .redirected line body redirects
    modify (·.start whole)
    setStatus 0
  | .nested line body redirects =>
    enterLine line
    nested i setting body redirects
  | .redirected line body redirects =>
    enterLine line
    redirected i inner body redirects
  | .negated c =>
    i.evaluate tested c
    setStatus (if (← get).status = 0 then 1 else 0)
  | .sequence first second =>
    i.evaluate inner first
    i.evaluate setting second
  | .both first second =>
    i.evaluate tested first
    if (← get).status = 0 then i.evaluate setting second
  | .either first second =>
    i.evaluate tested first
    if (← get).status ≠ 0 then i.evaluate setting second
  | .choice test whenTrue whenFalse =>
    i.evaluate tested test
    match (← get).status, whenFalse with
    | 0, _ => i.evaluate setting whenTrue
    | _, .skip => setStatus 0
    | _, _ => i.evaluate setting whenFalse
  | .loop test until_ body => deeper (loop i inner test until_ body i.depth 0)
  | .each line name words body =>
    enterLine line
    let items ← Expansion.allFields i.substitute false words
    if items.isEmpty then setStatus 0 else deeper (each i inner name body items)
  | .select line w arms =>
    enterLine line
    match ← arm? i (← Expansion.text i.substitute .single w) arms with
    | none | some .skip => setStatus 0
    | some body => i.evaluate setting body
  | .define _ name body =>
    modify fun m => { m with functions := (name, body) :: m.functions.filter (·.1 ≠ name) }
    setStatus 0

def isChecked : Command → Bool
  | .simple .. | .pipeline .. | .nested .. | .background .. => true
  | _ => false

end Evaluation

open Evaluation in
def evaluate : Nat → Setting → Command → Act Unit
  | 0, _, _ => throw .exhausted
  | depth + 1, setting, c => do
    let i : Interpreter := { depth, evaluate := evaluate depth }
    if !(← get).has 'n' then
      i.runTraps
      if isChecked c && !setting.isTested then exitOnFailure (perform i setting c)
      else perform i setting c
      i.runTraps

end DeployForge.Shell
