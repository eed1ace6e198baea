import DeployForge.Shell.Awk.Pattern
import DeployForge.Shell.Awk.Table
import DeployForge.Shell.Awk.Value
import DeployForge.Shell.Utility.Files

namespace DeployForge.Shell.Awk

structure Cell where
  value : Value := .unset
  table : Option Nat := none

inductive Splitter where
  | blanks
  | char (c : Char)
  | each
  | regex (r : Regex)

def between (s : Regex.Subject) : Nat → List Regex.Match → List Octets
  | start, [] => [(s.text.extract start s.length).toList]
  | start, m :: rest => (s.text.extract start m.start).toList :: between s m.stop rest

def Splitter.apply (sp : Splitter) (s : Octets) : List Octets :=
  if s.isEmpty then []
  else
    match sp with
    | blanks =>
      (Text.splitAt ' ' (s.map fun c => if isBlank c || c = '\n' then ' ' else c)).filter
        (!·.isEmpty)
    | char c => Text.splitAt c s
    | each => s.map ([·])
    | regex r =>
      let subject : Regex.Subject := { text := s.toArray }
      between subject 0 ((Regex.all subject r).filter fun m => m.start < m.stop)

inductive Ending where
  | char (c : Char)
  | paragraph
  | regex (r : Regex)

def paragraph : Octets → List Char → Octets × Octets
  | done, [] => (done.reverse, [])
  | done, ['\n'] => (done.reverse, [])
  | done, '\n' :: '\n' :: rest => (done.reverse, rest)
  | done, c :: rest => paragraph (c :: done) rest

def Ending.next? (e : Ending) (s : Octets) : Option (Octets × Octets) :=
  if s.isEmpty then none
  else
    match e with
    | char c =>
      let record := s.takeWhile (· ≠ c)
      some (record, s.drop (record.length + 1))
    | paragraph =>
      let s := s.dropWhile (· = '\n')
      if s.isEmpty then none
      else
        let (record, rest) := Awk.paragraph [] s
        some (record, rest.dropWhile (· = '\n'))
    | regex r =>
      let subject : Regex.Subject := { text := s.toArray }
      match (Regex.all subject r).find? fun m => m.start < m.stop with
      | some m => some (s.take m.start, s.drop m.stop)
      | none => some (s, [])

inductive Target where
  | main
  | errors
  | file (n : Nat)
  | pipe

structure Writer where
  name : Octets
  target : Target
  waiting : List Octets := []

structure Reader where
  name : Octets
  isCommand : Bool
  rest : Octets
  status : Nat := 0

structure World where
  program : Program
  scalars : Array Value
  /-- The tables of the program by the places of their names, and those of functions behind them. -/
  tables : Array (Table Value)
  cells : Array Cell := #[]
  record : Value := .unset
  fields : Array Value := #[]
  isSplit : Bool := true
  isStale : Bool := false
  splitter : Splitter := .blanks
  separator : Octets := [' ']
  argument : Nat := 1
  input : Option Octets := none
  hasInput : Bool := false
  isOver : Bool := false
  readers : List Reader := []
  writers : List Writer := []
  waiting : List Octets := []
  waitingSize : Nat := 0
  patterns : List (Octets × Regex) := []
  /-- For each rule whether the record is in its range. -/
  ranges : Array Bool := #[]
  seed : Nat := 0
  random : Nat := 1
  status : Nat := 0

inductive Halt where
  | broken
  | continued
  | next
  | nextFile
  | returned (v : Value)
  | exit
  | failed

abbrev Run := ExceptT Halt (StateT World Act)

inductive Key where
  | number (n : Int)
  | text (s : Octets)

inductive Place where
  | scalar (n : Name)
  | field (n : Nat)
  | element (table : Nat) (k : Key)

namespace Run

def act {α : Type} (a : Act α) : Run α := ExceptT.lift (StateT.lift a)

def global (i : Nat) : Run Value := do return ((← get).scalars[i]?).getD .unset

def setGlobal (i : Nat) (v : Value) : Run Unit :=
  modify fun w => { w with scalars := w.scalars.setIfInBounds i v }

def convFormat : Run Octets := do return (← global (usual "CONVFMT")).toText usualFormat

def textOf (v : Value) : Run Octets := do
  match v with
  | .number x =>
    match wholeText? x with
    | some s => return s
    | none => return numberText (← convFormat) x
  | v => return v.toText usualFormat

def globalText (name : String) : Run Octets := do textOf (← global (usual name))

def fault {α : Type} (c : Call) (text : Octets) : Run α := do
  act (c.complain text)
  modify fun w => { w with status := 2 }
  throw .failed

def runFault {α : Type} (c : Call) (text : Octets) : Run α := do
  let file ← globalText "FILENAME"
  let fnr ← globalText "FNR"
  let nr ← globalText "NR"
  fault c ("run time error: ".toList ++ text ++ "\n\tFILENAME=\"".toList ++ file
    ++ "\" FNR=".toList ++ fnr ++ " NR=".toList ++ nr)

def patternOf (c : Call) (s : Octets) : Run Regex := do
  match (← get).patterns.lookup s with
  | some r => return r
  | none =>
    match pattern s with
    | .error f =>
      runFault c ("regular expression compile failed (".toList ++ f.text.toList ++ ")\n".toList ++ s)
    | .ok r =>
      modify fun w => { w with patterns := (s, r) :: w.patterns.take 63 }
      return r

def splitterOf (c : Call) (s : Octets) : Run Splitter := do
  match s with
  | [] => return .each
  | [' '] => return .blanks
  | [ch] => return .char ch
  | _ => return .regex (← patternOf c s)

def endingOf (c : Call) (s : Octets) : Run Ending := do
  match s with
  | [] => return .paragraph
  | [ch] => return .char ch
  | _ => return .regex (← patternOf c s)

def setRecord (c : Call) (v : Value) : Run Unit := do
  let separator ← globalText "FS"
  if (← get).separator ≠ separator then
    let splitter ← splitterOf c separator
    modify fun w => { w with splitter, separator }
  modify fun w => { w with record := v, isSplit := false, isStale := false }

def split : Run Unit := do
  let w ← get
  if !w.isSplit then
    let s ← textOf w.record
    modify fun w => { w with
      fields := ((w.splitter.apply s).map Value.read).toArray
      isSplit := true }

def fieldCount : Run Nat := do
  split
  return (← get).fields.size

def record : Run Value := do
  let w ← get
  if w.isStale then
    let between ← globalText "OFS"
    let texts ← w.fields.toList.mapM textOf
    let v := Value.read (Octets.join between texts)
    modify fun w => { w with record := v, isStale := false }
    return v
  else return w.record

def setFieldCount (c : Call) (v : Value) : Run Unit := do
  let n := whole v.toNumber
  if n < 0 then runFault c "negative value assigned to NF".toList
  split
  modify fun w => { w with
    fields := (w.fields.extract 0 n.toNat) ++ Array.replicate (n.toNat - w.fields.size) (.text [])
    isStale := true }

def fieldNumber (c : Call) (v : Value) : Run Nat := do
  let n := whole v.toNumber
  if n < 0 then runFault c ("negative field index $".toList ++ Octets.ofInt n)
  return n.toNat

def field (n : Nat) : Run Value := do
  if n = 0 then record
  else
    split
    return ((← get).fields[n - 1]?).getD (.text [])

def setField (c : Call) (n : Nat) (v : Value) : Run Unit := do
  if n = 0 then setRecord c v
  else
    split
    modify fun w =>
      let fields := if w.fields.size < n then
          w.fields ++ Array.replicate (n - w.fields.size) (.text []) else w.fields
      { w with fields := fields.setIfInBounds (n - 1) v, isStale := true }

def scalar (n : Name) : Run Value := do
  match n with
  | .global 0 => return .number (Float.ofNat (← fieldCount))
  | .global i => global i
  | .own i => return (((← get).cells[i]?).getD {}).value

def setScalar (c : Call) (n : Name) (v : Value) : Run Unit := do
  match n with
  | .global 0 => setFieldCount c v
  | .global i => setGlobal i v
  | .own i => modify fun w => { w with cells := w.cells.modify i fun cell => { cell with value := v } }

def tableOf (n : Name) : Run Nat := do
  match n with
  | .global i => return i
  | .own i =>
    let w ← get
    match ((w.cells[i]?).getD {}).table with
    | some t => return t
    | none =>
      let t := w.tables.size
      modify fun w => { w with
        tables := w.tables.push {}
        cells := w.cells.modify i fun cell => { cell with table := some t } }
      return t

def table? (n : Name) : Run (Option (Table Value)) := do
  let w ← get
  match n with
  | .global i => return w.tables[i]?
  | .own i => return (((w.cells[i]?).getD {}).table).bind fun t => w.tables[t]?

def changeTable (t : Nat) (change : Table Value → Table Value) : Run Unit :=
  modify fun w => { w with tables := w.tables.modify t change }

def touchKey (k : Key) (t : Table Value) : Table Value :=
  match k with
  | .number n => t.touchNumber .unset n
  | .text s => t.touch .unset s

def keyText : Key → Octets
  | .number n => Octets.ofInt n
  | .text s => s

def keyOf (vs : List Value) : Run Key := do
  match vs with
  | [.number x] =>
    if isWhole x && x.abs < 1e15 then return .number (whole x) else return .text (← textOf (.number x))
  | [v] => return .text (← textOf v)
  | vs =>
    let mark ← globalText "SUBSEP"
    return .text (Octets.join mark (← vs.mapM textOf))

def element (t : Nat) (k : Key) : Run Value := do
  changeTable t (touchKey k)
  return (((← get).tables[t]?).bind (·.get? (keyText k))).getD .unset

def setElement (t : Nat) (k : Key) (v : Value) : Run Unit :=
  changeTable t fun t => (if t.contains (keyText k) then t else touchKey k t).set (keyText k) v

def hasElement (t : Nat) (k : Key) : Run Bool := do
  let has := (((← get).tables[t]?).map (·.contains (keyText k))).getD false
  if has then changeTable t (touchKey k)
  return has

def load (p : Place) : Run Value := do
  match p with
  | .scalar n => scalar n
  | .field n => field n
  | .element t k => return (((← get).tables[t]?).bind (·.get? (keyText k))).getD .unset

def save (c : Call) (p : Place) (v : Value) : Run Unit := do
  match p with
  | .scalar n => setScalar c n v
  | .field n => setField c n v
  | .element t k => setElement t k v

def writeFile (n : Nat) (s : Octets) : Act Unit := do
  let m ← get
  match ({ m with table := [(1, n)] }).write 1 s with
  | .ok written => set { written with table := m.table }
  | .error e => set { m with writeFault := m.writeFault.or (some e) }

def flushMain : Run Unit := do
  let text := (← get).waiting.reverse.flatten
  modify fun w => { w with waiting := [], waitingSize := 0 }
  if !text.isEmpty then act (Act.put text)

def putMain (s : Octets) : Run Unit := do
  modify fun w => { w with waiting := s :: w.waiting, waitingSize := w.waitingSize + s.length }
  let size := (← get).waitingSize
  if 4096 ≤ size then
    let text := (← get).waiting.reverse.flatten
    let n := size / 4096 * 4096
    modify fun w => { w with waiting := [text.drop n], waitingSize := size - n }
    act (Act.put (text.take n))

def flushWriter (wr : Writer) : Run Unit := do
  match wr.target with
  | .file n => act (writeFile n wr.waiting.reverse.flatten)
  | _ => pure ()

def flushAll : Run Unit := do
  flushMain
  for wr in (← get).writers do flushWriter wr
  modify fun w => { w with writers := w.writers.map fun wr =>
    match wr.target with
    | .file _ => { wr with waiting := [] }
    | _ => wr }

def shell (command : Octets) : List Octets := ["/bin/sh".toList, "-c".toList, command]

def statusOf (e : Except OsError Shell.Ending) : Nat :=
  match e with
  | .ok { signal := some n, .. } => 256 + n
  | .ok ending => ending.status
  | .error _ => 127

def feed (c : Call) (command text : Octets) : Run Nat := do
  let table := (← act get).table
  act (modify fun m => m.openAs 0 { channel := .text text, isWritable := false })
  let result ← act (c.run (shell command))
  act (modify fun m => { m with table })
  return statusOf result

def capture (c : Call) (command : Octets) : Run (Octets × Nat) := do
  let m ← act get
  let (n, inner) := m.newStream
  act (set (inner.openAs 1 { channel := .stream n, isReadable := false }))
  let result ← act (c.run (shell command))
  act (modify fun after => { after with table := m.table })
  return ((← act get).stream n, statusOf result)

def dropWriter (name : Octets) : Run Unit :=
  modify fun w => { w with writers := w.writers.filter (·.name ≠ name) }

def closeWriter (c : Call) (wr : Writer) : Run Nat := do
  dropWriter wr.name
  match wr.target with
  | .pipe => feed c wr.name wr.waiting.reverse.flatten
  | .main =>
    flushMain
    return 0
  | _ =>
    flushWriter wr
    return 0

def writer (c : Call) (name : Octets) (isPipe appends : Bool) : Run Writer := do
  match (← get).writers.find? (·.name = name) with
  | some wr => return wr
  | none =>
    if isPipe then
      flushAll
      return { name, target := .pipe }
    else if name = "/dev/stdout".toList then return { name, target := .main }
    else if name = "/dev/stderr".toList then return { name, target := .errors }
    else
      let m ← act get
      match m.openToWrite (if appends then .append else .truncate) false name with
      | .error e =>
        fault c ("cannot open \"".toList ++ name ++ "\" for output (".toList ++ .ofString e.text
          ++ [')'])
      | .ok (o, m) =>
        act (set { m with opened := m.opened.push o })
        return { name, target := .file m.opened.size }

def putTo (wr : Writer) (s : Octets) : Run Unit := do
  dropWriter wr.name
  let wr ← match wr.target with
    | .main =>
      putMain s
      pure wr
    | .errors =>
      act (Act.writeTo 2 s)
      pure wr
    | _ => pure { wr with waiting := s :: wr.waiting }
  modify fun w => { w with writers := wr :: w.writers }

def finish (c : Call) : Run Unit := do
  for wr in (← get).writers do
    match wr.target with
    | .pipe => discard (closeWriter c wr)
    | _ => pure ()
  flushAll

def standardInput : Run (Except OsError Octets) := act (Act.readAll 0)

def isStandard (name : Octets) : Bool := name = ['-'] || name = "/dev/stdin".toList

def assignment? (s : Octets) : Option (Octets × Octets) :=
  match Octets.cut? '=' s with
  | some (name, value) =>
    if name.all isNameChar && (name.head?.map isNameStart).getD false then some (name, value)
    else none
  | none => none

def assignGlobal (c : Call) (name value : Octets) : Run Unit := do
  match (← get).program.names.findIdx? (· = name) with
  | some i => setScalar c (.global i) (.read value)
  | none => pure ()

def openNext (c : Call) (unquote : Octets → Octets) : Nat → Run Bool
  | 0 => return false
  | fuel + 1 => do
    let w ← get
    let count := (whole (← global (usual "ARGC")).toNumber).toNat
    if w.argument < count then
      set { w with argument := w.argument + 1 }
      let found := (w.tables[usual "ARGV"]?).bind (·.get? (Octets.ofNat w.argument))
      let name ← textOf (found.getD .unset)
      if name.isEmpty then openNext c unquote fuel
      else
        match assignment? name with
        | some (name, value) =>
          assignGlobal c name (unquote value)
          openNext c unquote fuel
        | none =>
          begin_ name
          let m ← act get
          match ← if isStandard name then standardInput else pure (m.read name) with
          | .ok s =>
            modify fun w => { w with input := some s, hasInput := true }
            return true
          | .error .isDirectory => fault c "read error (Is a directory)".toList
          | .error e =>
            fault c ("cannot open \"".toList ++ name ++ "\" (".toList ++ .ofString e.text ++ [')'])
    else if w.hasInput then return false
    else
      match ← standardInput with
      | .ok s =>
        modify fun w => { w with input := some s, hasInput := true }
        return true
      | .error _ => return false
where
  begin_ (name : Octets) : Run Unit := do
    setGlobal (usual "FILENAME") (.read name)
    setGlobal (usual "FNR") (.number 0)

def countRecord : Run Unit := do
  let nr := (← global (usual "NR")).toNumber
  let fnr := (← global (usual "FNR")).toNumber
  setGlobal (usual "NR") (.number (nr + 1))
  setGlobal (usual "FNR") (.number (fnr + 1))

def nextRecord (c : Call) (unquote : Octets → Octets) : Nat → Run (Option Octets)
  | 0 => return none
  | fuel + 1 => do
    let w ← get
    if w.isOver then return none
    match w.input with
    | none =>
      if ← openNext c unquote 100000 then nextRecord c unquote fuel
      else
        modify fun w => { w with isOver := true }
        return none
    | some s =>
      let ending ← endingOf c (← globalText "RS")
      match ending.next? s with
      | some (r, rest) =>
        modify fun w => { w with input := some rest }
        countRecord
        return some r
      | none =>
        modify fun w => { w with input := none }
        nextRecord c unquote fuel

end Run

end DeployForge.Shell.Awk
