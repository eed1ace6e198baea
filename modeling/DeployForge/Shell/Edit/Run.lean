import DeployForge.Shell.Edit
import DeployForge.Shell.Utility.Files

namespace DeployForge.Shell.Edit

inductive Target where
  | main
  | output
  | errors
  | file (name : Octets)
  deriving DecidableEq, Repr

inductive Queued where
  | text (s : Octets)
  | file (name : Octets)
  deriving DecidableEq, Repr

inductive Stretch where
  | outside
  | inside (stop : Option Nat)
  deriving DecidableEq, Repr

structure Manner where
  isQuiet : Bool := false
  isSeparate : Bool := false
  inPlace : Option Octets := none
  followsLinks : Bool := false
  mark : Char := '\n'
  width : Nat := 70
  expressions : Nat := 0

abbrev Lines := List (Octets × Bool)

structure Work where
  script : Script
  manner : Manner
  space : Octets := []
  isEnded : Bool := true
  hold : Octets := []
  holdIsEnded : Bool := true
  line : Nat := 0
  stretches : Array Stretch := #[]
  hasChanged : Bool := false
  queue : List Queued := []
  finder : Option Finder := none
  files : List Octets
  lines : Lines := []
  file : Option Octets := none
  name : Octets := ['-']
  unended : List Target := []
  /-- What was written to files, the latest first. -/
  written : List (Octets × List Octets) := []
  result : List Octets := []
  sources : List (Octets × Lines) := []
  status : Nat := 0

abbrev Run := ExceptT Nat (StateT Work Act)

inductive Outcome where
  | finished
  | deleted
  | again
  | quit (status : Nat)
  deriving DecidableEq, Repr

namespace Run

def act {α : Type} (a : Act α) : Run α := ExceptT.lift (StateT.lift a)

def panic {α : Type} (c : Call) (text : Octets) (status : Nat := 4) : Run α := do
  act (c.complain text)
  throw status

def panicOf {α : Type} (c : Call) (what name : Octets) (e : OsError) : Run α :=
  panic c (what ++ name ++ ": ".toList ++ .ofString e.text)

def putRaw (t : Target) (s : Octets) : Run Unit := do
  let w ← get
  match t with
  | .main =>
    if w.manner.inPlace.isSome then set { w with result := s :: w.result } else act (Act.put s)
  | .output => act (Act.put s)
  | .errors => act (Act.writeTo 2 s)
  | .file name =>
    let before := (w.written.lookup name).getD []
    set { w with written := (name, s :: before) :: w.written.filter (·.1 ≠ name) }

def endLine (t : Target) : Run Unit := do
  let w ← get
  if w.unended.contains t then
    set { w with unended := w.unended.filter (· ≠ t) }
    putRaw t [w.manner.mark]

def put (t : Target) (s : Octets) : Run Unit := do
  endLine t
  putRaw t s

def putLine (t : Target) (s : Octets) : Run Unit := do
  put t s
  let w ← get
  if w.isEnded then putRaw t [w.manner.mark] else set { w with unended := t :: w.unended }

def putSpace : Run Unit := do putLine .main (← get).space

def targetOf (name : Octets) : Target :=
  if name = "/dev/stdout".toList then .output
  else if name = "/dev/stderr".toList then .errors else .file name

def putQueue (c : Call) : Run Unit := do
  let queue := (← get).queue
  if !queue.isEmpty then endLine .main
  for q in queue do
    match q with
    | .text s => putRaw .main s
    | .file name =>
      match (← act get).read name with
      | .ok s => putRaw .main s
      | .error .isDirectory => panicOf c "read error on ".toList name .isDirectory
      | .error _ => pure ()
  modify fun w => { w with queue := [] }

def linesOf (mark : Char) (s : Octets) : Lines :=
  let (lines, isEnded) := Octets.records mark s
  lines.mapIdx fun i l => (l, isEnded || i + 1 < lines.length)

def backupName (name addition : Octets) : Octets :=
  let base := Octets.baseName name
  let new := if addition.contains '*' then
      addition.flatMap fun ch => if ch = '*' then base else [ch]
    else base ++ addition
  if new.contains '/' then new
  else if name.contains '/' then Octets.within (Octets.directoryName name) new else new

def replaceFile (c : Call) : Run Unit := do
  let w ← get
  match w.manner.inPlace, w.file with
  | some addition, some name =>
    let content := w.result.reverse.flatten
    let unended := w.unended.filter (· ≠ Target.main)
    set { w with file := none, result := [], unended }
    let m ← act get
    let mode := (m.seen? name).map fun (l, _) => m.storage.mode l
    let target := match w.manner.followsLinks, m.seen? name with
      | true, some (l, _) => Storage.pathOf l
      | _, _ => name
    if addition.isEmpty then discard (act (Act.unlink target))
    else
      match ← act (Act.rename target (backupName target addition)) with
      | .ok () => pure ()
      | .error e => panicOf c "cannot rename ".toList name e
    discard (act (Call.store target content))
    match mode, (← act get).seen? target with
    | some mode, some (l, _) =>
      act (modify fun m => { m with storage := m.storage.setMode l mode })
    | _, _ => pure ()
  | _, _ => pure ()

def stretchesOf (s : Script) : Array Stretch :=
  s.steps.map fun step =>
    match step.first with
    | some (.line 0) => .inside none
    | _ => .outside

def openFile (c : Call) (name : Octets) : Run Unit := do
  let w ← get
  let m ← act get
  if w.manner.inPlace.isSome then
    match m.seen? name with
    | some (_, .file _) => pure ()
    | some _ => panic c ("couldn't edit ".toList ++ name ++ ": not a regular file".toList)
    | none => pure ()
  let isInput := name = ['-'] && w.manner.inPlace.isNone
  match ← act (if isInput then Act.readAll 0 else pure (m.read name)) with
  | .ok s =>
    let w := { w with lines := linesOf w.manner.mark s, file := some name }
    set (if w.manner.isSeparate && w.line ≠ 0 then
      { w with line := 0, hold := [], sources := [], stretches := stretchesOf w.script } else w)
  | .error e =>
    if isInput then panicOf c "read error on ".toList "stdin".toList e
    else if e = .isDirectory then panicOf c "read error on ".toList name e
    else
      act (c.complain ("can't read ".toList ++ name ++ ": ".toList ++ .ofString e.text))
      set { w with status := 2 }

def hasLine (c : Call) : Nat → Run Bool
  | 0 => return !(← get).lines.isEmpty
  | fuel + 1 => do
    let w ← get
    if !w.lines.isEmpty then return true
    replaceFile c
    match w.files with
    | [] => return false
    | name :: files =>
      modify fun w => { w with files }
      openFile c name
      hasLine c fuel

def isLast (c : Call) : Run Bool := do
  let w ← get
  if !w.lines.isEmpty then return false
  if w.manner.isSeparate then return true
  return !(← hasLine c (w.files.length + 1))

def readLine (c : Call) (appends : Bool) : Run Bool := do
  putQueue c
  let w ← get
  if !(← hasLine c (w.files.length + 1)) then return false
  let w ← get
  match w.lines with
  | [] => return false
  | (line, isEnded) :: lines =>
    set { w with
      space := if appends then w.space ++ w.manner.mark :: line else line
      isEnded
      lines
      name := w.file.getD w.name
      line := w.line + 1
      hasChanged := false }
    return true

def finder (c : Call) (f : Option Finder) : Run Finder := do
  let w ← get
  match f.or w.finder with
  | some f =>
    set { w with finder := some f }
    return { f with hasLines := f.hasLines && w.manner.mark = '\n' }
  | none =>
    panic c ("-e expression #".toList ++ Octets.ofNat w.manner.expressions
      ++ ", char 0: no previous regular expression".toList) 1

def isAt (c : Call) (a : Address) : Run Bool := do
  let w ← get
  match a with
  | .line n => return w.line = n
  | .step first by_ => return first ≤ w.line && (w.line - first) % by_ = 0
  | .last => isLast c
  | .found f => return (← finder c f).matches_ w.space
  | .lines _ | .multiple _ => return false

def stretchFrom (line : Nat) : Address → Stretch
  | .line n => if n ≤ line then .outside else .inside (some n)
  | .lines n => if n = 0 then .outside else .inside (some (line + n))
  | .multiple n =>
    if n = 0 then .outside else .inside (some ((line / n + 1) * n))
  | _ => .inside none

def selects (c : Call) (i : Nat) (s : Step) : Run Bool := do
  let w ← get
  let turn (stretch : Stretch) : Run Unit :=
    modify fun w => { w with stretches := w.stretches.setIfInBounds i stretch }
  match s.first, s.second with
  | none, _ => return true
  | some a, none => isAt c a
  | some a, some b =>
    match (w.stretches[i]?).getD .outside with
    | .outside =>
      if ← isAt c a then
        turn (stretchFrom w.line b)
        return true
      else return false
    | .inside (some stop) =>
      if stop ≤ w.line then turn .outside
      return w.line ≤ stop
    | .inside none =>
      if ← isAt c b then turn .outside
      return true

/-- What replaces a match. A change of the first letter may wait for a text that is not empty. -/
def expand (s : Regex.Subject) (m : Regex.Match) : List Portion → Option Letters → Octets
  | [], _ => []
  | p :: rest, waiting =>
    let writing := { p.writing with first := p.writing.first.or waiting }
    let front := writing.apply p.text
    let writing := if p.text.isEmpty then writing else { writing with first := none }
    match p.group.map (m.part s) with
    | none => front ++ expand s m rest none
    | some [] => front ++ expand s m rest (if p.writing.first.isSome then writing.first else none)
    | some part => front ++ writing.apply part ++ expand s m rest none

def chosen (u : Substitution) (s : Regex.Subject) (r : Regex) : List Regex.Match :=
  if !u.isGlobal && u.number ≤ 1 then (Regex.find? s r 0).toList
  else
    let all := (Regex.all s r).drop (u.number - 1)
    if u.isGlobal then all else all.take 1

def outputOf (c : Call) (command : Octets) : Run Octets := do
  let m ← act get
  let (n, inner) := m.newStream
  act (set (inner.openAs 1 { channel := .stream n, isReadable := false }))
  discard (act (c.run ["sh".toList, "-c".toList, command]))
  act (modify fun after => { after with table := m.table })
  return (← act get).stream n

def runSpace (c : Call) : Run Unit := do
  let w ← get
  let s ← outputOf c w.space
  let s := if s.getLast? = some w.manner.mark then s.dropLast else s
  modify fun w => { w with space := s }

def substitute (c : Call) (u : Substitution) : Run Unit := do
  let f ← finder c u.finder
  let w ← get
  let s := f.subject w.space
  match chosen u s f.regex with
  | [] => return ()
  | found =>
    let (done, n) := found.foldl (fun (done, n) m =>
      (expand s m u.portions none :: (s.text.extract n m.start).toList :: done, m.stop)) ([], 0)
    let space := ((s.text.extract n s.length).toList :: done).reverse.flatten
    set { w with space, hasChanged := true }
    if u.showsBefore then putSpace
    if u.runs then runSpace c
    if u.shows then putSpace
    match u.file with
    | some name => do
      let w ← get
      putLine (targetOf name) w.space
    | none => pure ()

def shown (c : Char) : Octets :=
  match c with
  | '\\' => ['\\', '\\']
  | '\x07' => ['\\', 'a']
  | '\x08' => ['\\', 'b']
  | '\x0c' => ['\\', 'f']
  | '\n' => ['\\', 'n']
  | '\r' => ['\\', 'r']
  | '\t' => ['\\', 't']
  | '\x0b' => ['\\', 'v']
  | _ => if isShown c then [c] else '\\' :: Octets.inBase 8 3 c.toNat

def listing (width : Nat) (s : Octets) : Octets :=
  let (done, _) := s.foldl (fun ((done : List Octets), column) c =>
    let part := shown c
    if width ≠ 0 && width - 1 < column + part.length then
      (part :: ['\\', '\n'] :: done, part.length)
    else (part :: done, column + part.length)) ([], 0)
  done.reverse.flatten ++ ['$']

def nextOf (c : Call) (name : Octets) : Run (Option (Octets × Bool)) := do
  let w ← get
  let lines ← match w.sources.lookup name with
    | some lines => pure lines
    | none =>
      match (← act get).read name with
      | .ok s => pure (linesOf w.manner.mark s)
      | .error .isDirectory => panicOf c "read error on ".toList name .isDirectory
      | .error _ => pure []
  set { w with sources := (name, lines.drop 1) :: w.sources.filter (·.1 ≠ name) }
  return lines.head?

def perform (c : Call) (i : Nat) (a : Action) : Run (Option Outcome) := do
  let w ← get
  let mark := w.manner.mark
  let change (f : Work → Work) : Run (Option Outcome) := do
    modify f
    return none
  let queue (q : Queued) : Run (Option Outcome) :=
    change fun w => { w with queue := w.queue ++ [q] }
  let firstLine := w.space.takeWhile (· ≠ mark)
  match a with
  | .nothing | .block _ | .jump _ _ => return none
  | .append s => queue (.text s)
  | .insert s =>
    if !s.isEmpty then put .main (s.dropLast ++ [mark])
    return none
  | .change s =>
    match (w.stretches[i]?).getD .outside with
    | .outside => if !s.isEmpty then put .main (s.dropLast ++ [mark])
    | .inside _ => pure ()
    return some .deleted
  | .delete => return some .deleted
  | .deleteLine =>
    if w.space.contains mark then
      set { w with space := w.space.drop (firstLine.length + 1) }
      return some .again
    else return some .deleted
  | .run command =>
    if command.isEmpty then runSpace c else put .main (← outputOf c command)
    return none
  | .fileName =>
    put .main (w.name ++ [mark])
    return none
  | .copyFromHold => change fun w => { w with space := w.hold, isEnded := w.holdIsEnded }
  | .appendFromHold => change fun w => { w with space := w.space ++ mark :: w.hold }
  | .copyToHold => change fun w => { w with hold := w.space, holdIsEnded := w.isEnded }
  | .appendToHold => change fun w => { w with hold := w.hold ++ mark :: w.space }
  | .exchange =>
    change fun w => { w with
      space := w.hold
      isEnded := w.holdIsEnded
      hold := w.space
      holdIsEnded := w.isEnded }
  | .show_ width =>
    put .main (listing (width.getD w.manner.width) w.space ++ [mark])
    return none
  | .next =>
    if ← isLast c then return some .finished
    if !w.manner.isQuiet then putSpace
    discard (readLine c false)
    return none
  | .appendNext =>
    if ← isLast c then return some .finished
    discard (readLine c true)
    return none
  | .print =>
    putSpace
    return none
  | .printLine =>
    put .main (firstLine ++ [mark])
    return none
  | .number =>
    put .main (Octets.ofNat w.line ++ [mark])
    return none
  | .quit status =>
    if !w.manner.isQuiet then putSpace
    putQueue c
    return some (.quit status)
  | .leave status => return some (.quit status)
  | .readFile name => queue (.file name)
  | .readLine name =>
    match ← nextOf c name with
    | some (line, isEnded) => queue (.text (if isEnded then line ++ [mark] else line))
    | none => return none
  | .writeFile name =>
    putLine (targetOf name) w.space
    return none
  | .writeLine name =>
    put (targetOf name) (firstLine ++ [mark])
    return none
  | .substitute s =>
    substitute c s
    return none
  | .exchangeChars pairs =>
    change fun w => { w with space := w.space.map fun ch => (pairs.lookup ch).getD ch }
  | .clear => change fun w => { w with space := [] }
  | .unusable ch => panic c ("INTERNAL ERROR: Bad cmd ".toList ++ [ch])

def target? (a : Action) : Run (Option Nat) := do
  let w ← get
  match a with
  | .jump occasion label =>
    let jumps := match occasion with
      | .always => true
      | .changed => w.hasChanged
      | .unchanged => !w.hasChanged
    if occasion ≠ .always then set { w with hasChanged := false }
    if jumps then return some ((w.script.labels.lookup label).getD w.script.steps.size)
    else return none
  | _ => return none

def steps (c : Call) : Nat → Nat → Run Outcome
  | 0, _ => act (throw .exhausted)
  | fuel + 1, i => do
    match (← get).script.steps[i]? with
    | none => return .finished
    | some s =>
      if (← selects c i s) != s.negated then
        match ← perform c i s.action with
        | some outcome => return outcome
        | none => steps c fuel ((← target? s.action).getD (i + 1))
      else
        match s.action with
        | .block stop => steps c fuel stop
        | _ => steps c fuel (i + 1)

def patience : Nat := 100000000

def cycles (c : Call) : Nat → Bool → Run Nat
  | 0, _ => act (throw .exhausted)
  | fuel + 1, isAgain => do
    if !isAgain then
      if !(← readLine c false) then return (← get).status
    match ← steps c patience 0 with
    | .finished =>
      if !(← get).manner.isQuiet then putSpace
      putQueue c
      cycles c fuel false
    | .deleted =>
      putQueue c
      cycles c fuel false
    | .again =>
      putQueue c
      cycles c fuel true
    | .quit status =>
      let w ← get
      return if status = 0 then w.status else status

end Run

def openOutputs (c : Call) (s : Script) : Act Unit := do
  for name in s.outputs do
    match Run.targetOf name with
    | .file name =>
      match ← Call.store name [] with
      | .ok () => pure ()
      | .error e => c.fail 4 ("couldn't open file ".toList ++ name ++ ": ".toList ++ .ofString e.text)
    | _ => pure ()

def leaveInput (earlier : Machine) (w : Work) : Act Unit := do
  if w.file = some ['-'] && (earlier.fileOf? 0).isSome then
    match earlier.readable 0 with
    | .ok s =>
      let left := sumOf (w.lines.map fun (l, isEnded) => if isEnded then l.length + 1 else l.length)
      modify fun m => m.rewound earlier 0 (s.length - left)
    | .error _ => pure ()

def edit (c : Call) (script : Script) (manner : Manner) (files : List Octets) : Act Nat := do
  openOutputs c script
  let earlier ← get
  let w : Work := { script, manner, files, stretches := Run.stretchesOf script }
  let (result, w) ← (Run.cycles c Run.patience false).run.run w
  let (_, w) ← (match result with
    | .ok _ => Run.replaceFile c
    | .error _ => pure ()).run.run w
  for (name, pieces) in w.written do discard (Call.store name pieces.reverse.flatten)
  leaveInput earlier w
  let m ← get
  match m.writeFault with
  | some e =>
    set { m with writeFault := none }
    c.complain ("couldn't flush stdout: ".toList ++ .ofString e.text)
    return 4
  | none =>
    match result with
    | .ok status | .error status => return status

end DeployForge.Shell.Edit
