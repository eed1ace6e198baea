import DeployForge.Shell.Builtin.Process
import DeployForge.Shell.Expansion
import DeployForge.Shell.Image
import DeployForge.Shell.Process
import DeployForge.Shell.Search
import DeployForge.Shell.Start
import DeployForge.Shell.Utilities

/-!
What surrounds the commands of a shell: the text that they are read from, copies of the shell, and
programs. How a command itself is run is a part of an interpreter.
-/

namespace DeployForge.Shell

/-- Where a command stands: whether its failure is looked at, and whether it is the last one. -/
structure Setting where
  isTested : Bool := false
  isLast : Bool := false

/-- Runs commands that are nested at most so deep. -/
structure Interpreter where
  depth : Nat
  evaluate : Setting → Command → Act Unit

namespace Interpreter

open Act

def settle (e : Ending) : Act Unit := do
  tellSignal e
  setStatus e.status

def atEnd (r : Parser.Reader) : Bool := r.isPushed && r.last = .endOfText

def reader (m : Machine) (r : Parser.Reader) : Parser.Reader :=
  { r with aliases := m.aliases, nextKey := m.nextKey, documents := [] }

def noteRead (isFile : Bool) (before after : Parser.Reader) : Act Unit := do
  if isFile && (← get).has 'v' then
    let text := before.rest.take (before.rest.length - after.rest.length)
    modify fun m => ((m.write 2 text).toOption).getD m
  modify fun m => { m with documents := after.documents ++ m.documents, nextKey := after.nextKey }

def notStarted (name : Octets) (e : OsError) : Act Unit := do
  warn (name ++ ": ".toList ++ Search.faultText e)
  let isMissing := [OsError.noEntry, .notDirectory, .tooManyLinks, .nameTooLong].contains e
  setStatus (if isMissing then 127 else 126)
  throw .exit

def waiting (m : Machine) : List Nat :=
  ((m.pending.filter (·.1 = m.process)).map (·.2)).eraseDups.mergeSort

def scriptPath (name : Octets) : Act Octets := do
  let m ← get
  let isFile (p : Octets) : Bool := match m.storage.status true p with
    | .ok (_, .file _) => true
    | _ => false
  if name.contains '/' then return name
  else
    match (Search.candidates ((m.value? "PATH".toList).getD []) name).find? isFile with
    | some p => return p
    | none => fail (name ++ ": not found".toList)

def script (p : Octets) : Act Octets := do
  match (← get).read p with
  | .ok text => return text
  | .error e => if e = .isDirectory then return [] else fail (Redirection.faultText true p e)

variable (i : Interpreter)

/-- Runs the commands of a text one after another. The status of the last one is given back. -/
def runCommands (setting : Setting) (isFile : Bool) : Nat → Parser.Reader → Nat → Act Nat
  | 0, _, _ => throw .exhausted
  | fuel + 1, r, status => do
    let r := reader (← get) r
    match Parser.next? r with
    | .error e =>
      modify fun m => { m with line := e.line }
      failText e.text
    | .ok (none, after) =>
      noteRead isFile r after
      return status
    | .ok (some c, after) =>
      noteRead isFile r after
      match c with
      | .skip => runCommands setting isFile fuel after status
      | _ =>
        i.evaluate { setting with isLast := setting.isLast && atEnd after } c
        runCommands setting isFile fuel after (← get).status

def runText (setting : Setting) (s : Octets) : Act Nat :=
  i.runCommands setting false (s.length + 2) { rest := s } 0

def runScript (s : Octets) : Act Nat := i.runCommands {} true (s.length + 2) { rest := s } 0

def runTraps : Act Unit := do
  let m ← get
  if !m.pending.isEmpty then
    set { m with pending := m.pending.filter (·.1 ≠ m.process) }
    for signal in waiting m do
      match (← get).traps.lookup signal with
      | some [] => pure ()
      | some action =>
        let status := (← get).status
        modify fun n => { n with kept := some (m.kept.getD status) }
        discard (i.runText {} action)
        modify fun n => { n with kept := m.kept, status }
      | none => if !Signal.isIgnored signal then throw (.killed signal)

def leave (work : Act Unit) : Act Unit := fun m =>
  match work m with
  | (.error .gone, m) => (.ok (), m)
  | (.error (.killed signal), m) => (.error (.killed signal), m)
  | (.error .exhausted, m) => (.error .exhausted, m)
  | (_, m) =>
    match m.traps.lookup 0 with
    | none | some [] => (.ok (), m)
    | some action =>
      let traps := m.traps.filter (·.1 ≠ 0)
      let inner := { m with traps, kept := some m.status, loopDepth := 0, command := none }
      match i.runText {} action inner with
      | (.error .exit, n) | (.error .error, n) | (.error .gone, n) => (.ok (), n)
      | (.error (.killed signal), n) => (.error (.killed signal), n)
      | (.error .exhausted, n) => (.error .exhausted, n)
      | (_, n) => (.ok (), { n with status := m.status })

def ending (result : Except Stop Unit) (m : Machine) : Except Stop Ending :=
  match result with
  | .ok () => .ok { status := m.status % 256 }
  | .error (.killed signal) => .ok ⟨128 + signal, some signal⟩
  | .error _ => .error .exhausted

def apart (change : Machine → Machine) (work : Act Unit) : Act Ending := fun m =>
  let (result, n) := i.leave work (change m.forked)
  (ending result n, m.resumed n)

def collect (change : Machine → Machine) (work : Act Unit) : Act (Ending × Octets) := do
  let (n, m) := (← get).newStream
  set m
  let drain (m : Machine) : Machine :=
    (change m).openAs 1 { channel := .stream n, isReadable := false }
  let ending ← i.apart drain work
  let m ← get
  set { m with streams := m.streams.setIfInBounds n [] }
  return (ending, m.stream n)

def runJob (job : Job) : Act Unit := fun m =>
  match job.work with
  | none => (.ok (), m)
  | some (body, scope) =>
    let inner := { m.setJob { job with work := none } with
      toScope := scope
      storage := { m.storage with place := job.place, umask := job.umask }
      now := job.since }
    let (result, n) := i.leave (i.evaluate { isLast := true } body) inner
    match ending result n with
    | .error stop => (.error stop, m.resumed n)
    | .ok e =>
      let after : Job := { job with work := none, status := some e.status, signal := e.signal }
      (.ok (), { (m.resumed n).setJob after with now := max m.now n.now })

/-- Runs what was put beside the shell and may begin by a moment, as long as there is any. -/
def runJobs (moment : Nat) : Nat → Act Unit
  | 0 => throw .exhausted
  | fuel + 1 => do
    let m ← get
    match Job.next? m.jobs moment with
    | some job =>
      set { m with now := max m.now job.wake }
      i.runJob job
      runJobs moment fuel
    | none => return ()

def runReady : Act Unit := do i.runJobs (← get).now i.depth

def passUntil (moment : Nat) : Act Unit := do
  i.runJobs moment i.depth
  modify fun n => { n with now := max n.now moment }

def pass (span : Nat) : Act Unit := do i.passUntil ((← get).now + span)

def substitute (body : Command) : Act Octets := do
  match body with
  | .skip => return []
  | _ =>
    i.runReady
    let (ending, text) ← i.collect id (i.evaluate { isLast := true } body)
    tellSignal ending
    modify fun m => { m with substituted := some ending.status }
    return Octets.dropRightWhile (· = '\n') (text.filter (· ≠ '\x00'))

def shell (words : List Octets) : Act Unit := do
  modify fun m => { Start.bindings m with line := 0 }
  i.leave do
    let invocation ← Start.invocation words
    match invocation.readsCommand, (← get).has 's', invocation.words with
    | true, _, [] => failText "-c requires an argument"
    | true, _, s :: rest =>
      modify fun m => { m with name := rest.headD m.name, arguments := rest.drop 1 }
      setStatus (← i.runText { isLast := true } s)
    | false, false, path :: arguments =>
      let content ← script path
      modify fun m => { m with name := path, arguments }
      setStatus (← i.runScript content)
    | _, _, arguments =>
      Builtin.turn true 's'
      modify fun m => { m with arguments }
      setStatus (← i.runScript (((← readAll 0).toOption).getD []))

def start : Nat → Image → Act Unit
  | 0, _ => throw .exhausted
  | fuel + 1, image => do
    let name := image.arguments.headD []
    let args := image.arguments.tail
    let spawn (words : List Octets) : Act (Except OsError Ending) := do
      i.runReady
      let m ← get
      let path := (m.value? "PATH".toList).getD "/bin:/usr/bin".toList
      let name := words.headD []
      let found := if name.isEmpty then .error .noEntry else Search.inPath m.storage (some path) name
      match found.bind fun path => Image.loadOrScript m.storage path words with
      | .error e => return .error e
      | .ok image => return .ok (← i.apart id (start fuel image))
    modify (·.bare name)
    if shells.contains image.program then i.shell args
    else
      match utility? image.program with
      | some run => runUtility run { name, args, run := spawn, pass := i.pass }
      | none => setStatus 0

def become (path : Octets) (words : List Octets) : Act Unit := do
  match Image.loadOrScript (← get).storage path words with
  | .ok image =>
    modify (·.grouped)
    i.start i.depth image
    throw .gone
  | .error e => notStarted (words.headD []) e

def replace (words : List Octets) : Act Unit := do
  let m ← get
  let name := words.headD []
  match Search.inPath m.storage (m.value? "PATH".toList) name with
  | .ok path => i.become path words
  | .error e => notStarted name e

def external (setting : Setting) (path : Octets) (words : List Octets) : Act Unit := do
  i.runReady
  let name := words.headD []
  if !name.contains '/' then modify (·.learn name)
  if setting.isLast && !(← get).hasTraps then i.become path words
  else settle (← i.apart id (i.become path words))

def source (name : Octets) : Act Nat := do
  let path ← scriptPath name
  let content ← script path
  modify fun m => { m with command := some path }
  returning do setStatus (← i.runScript content)
  return (← get).status

def wait (args : List Octets) : Act Nat := do
  let moment (m : Machine) (process : Nat) : Nat :=
    match m.jobs.find? (·.process = process) with
    | some { wake, work := some _, .. } => wake
    | _ => m.now
  if args.isEmpty then
    for process in (← get).children.reverse do i.passUntil (moment (← get) process)
    return 0
  let mut status := 127
  for arg in args do
    let process ← if arg.head? = some '%' then Builtin.jobOf arg else Builtin.number arg
    if (← get).children.contains process then
      i.passUntil (moment (← get) process)
      let m ← get
      match m.jobs.find? (·.process = process) with
      | some job =>
        status := job.status.getD 0
        tellSignal ⟨status, job.signal⟩
        set (m.setJob { job with signal := none })
      | none => pure ()
  return status

end Interpreter

end DeployForge.Shell
