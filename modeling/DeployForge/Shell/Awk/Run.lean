import DeployForge.Shell.Awk.Token
import DeployForge.Shell.Awk.World
import DeployForge.Shell.Utility.Calendar

namespace DeployForge.Shell.Awk

namespace Run

def depth : Nat := 100000

def rounds : Nat := Nat.pow 10 12

def round (body : Run Unit) : Run Bool :=
  tryCatch (do body; return true) fun
    | .broken => return false
    | .continued => return true
    | h => throw h

def loop (test : Run Bool) (body after : Run Unit) : Nat → Run Unit
  | 0 => pure ()
  | n + 1 => do
    if ← test then
      if ← round body then
        after
        loop test body after n

def replacement (found : Octets) : List Char → Octets
  | '\\' :: '&' :: rest => '&' :: replacement found rest
  | '\\' :: '\\' :: '&' :: rest => '\\' :: found ++ replacement found rest
  | '&' :: rest => found ++ replacement found rest
  | c :: rest => c :: replacement found rest
  | [] => []

def replaced (s : Regex.Subject) (by_ : Octets) : Nat → List Regex.Match → List Octets
  | start, [] => [(s.text.extract start s.length).toList]
  | start, m :: rest =>
    (s.text.extract start m.start).toList
      :: replacement (s.text.extract m.start m.stop).toList by_ :: replaced s by_ m.stop rest

def part (s : Octets) (start : Int) (length : Option Int) : Octets :=
  match length with
  | none => s.drop (start - 1).toNat
  | some n =>
    let n := if start < 1 then n - start else n
    (s.drop (start - 1).toNat).take n.toNat

def position (t : Octets) : Nat → List Char → Nat
  | n, [] => if t.isEmpty then n else 0
  | n, c :: rest => if t.isPrefixOf (c :: rest) then n else position t (n + 1) rest

def number (x : Float) : Value := .number x

def ofNat (n : Nat) : Value := .number (Float.ofNat n)

def ofBool (b : Bool) : Value := .number (if b then 1 else 0)

def formatted (c : Call) (name : String) (prints : Bool) (vs : List Value) : Run Octets := do
  let format ← textOf (vs.headD .unset)
  let convert ← convFormat
  let (done, problem) :=
    formatValues (·.toText convert) (format.length + 1) 1 format vs.tail []
  let text := done.reverse.flatten
  match problem with
  | none => return text
  | some f =>
    if prints then putMain text
    let what := match f with
      | .tooFew => "not enough arguments passed to ".toList
      | .improper n => "improper conversion(number ".toList ++ Octets.ofNat n ++ ") in ".toList
    runFault c (what ++ name.toList ++ "(\"".toList ++ format ++ "\")".toList)

def readFrom (c : Call) (name : Octets) (isCommand : Bool) : Run (Option Octets ⊕ Unit) := do
  let opened ← match (← get).readers.find? fun r => r.name = name && r.isCommand = isCommand with
    | some r => pure (some r)
    | none =>
      let found : Option Reader ← if isCommand then do
          flushAll
          let (rest, status) ← capture c name
          pure (some { name, isCommand, rest, status })
        else do
          let m ← act get
          match ← if isStandard name then standardInput else pure (m.read name) with
          | .ok rest => pure (some { name, isCommand, rest })
          | .error _ => pure none
      match found with
      | some r => modify fun w => { w with readers := r :: w.readers }
      | none => pure ()
      pure found
  match opened with
  | none => return .inr ()
  | some r =>
    let ending ← endingOf c (← globalText "RS")
    match ending.next? r.rest with
    | none => return .inl none
    | some (record, rest) =>
      modify fun w => { w with readers := w.readers.map fun (o : Reader) =>
        if o.name = name && o.isCommand = isCommand then { o with rest } else o }
      return .inl (some record)

def close (c : Call) (name : Octets) : Run Value := do
  let w ← get
  let reader := w.readers.find? (·.name = name)
  modify fun w => { w with readers := w.readers.filter (·.name ≠ name) }
  match w.writers.find? (·.name = name), reader with
  | some wr, _ => return ofNat (← closeWriter c wr)
  | none, some r => return ofNat r.status
  | none, none => return .number (-1)

def chance : Run Value := do
  let n := ((← get).random * 1103515245 + 12345) % 2147483648
  modify fun w => { w with random := n }
  return .number (Float.ofNat n / 2147483648)

def seeded (v : Option Value) : Run Value := do
  let w ← get
  let seed := match v with
    | some v => (whole v.toNumber).toNat
    | none => Calendar.present.toNat
  set { w with seed, random := seed + 1 }
  return ofNat w.seed

def isFound (r : Regex) (v : Value) : Run Bool := do
  let s ← textOf v
  return (Regex.find? { text := s.toArray } r 0).isSome

def writeTo (c : Call) (name : Value) (isPipe appends : Bool) (s : Octets) : Run Unit := do
  putTo (← writer c (← textOf name) isPipe appends) s

mutual

def value (c : Call) : Nat → Expr → Run Value
  | 0, _ => throw .failed
  | fuel + 1, e => do
    match e with
    | .number x => return .number x
    | .text s => return .text s
    | .regex r => return ofBool (← isFound r (← record))
    | .variable_ n => scalar n
    | .field e => field (← fieldNumber c (← value c fuel e))
    | .element n indices =>
      let k ← keyOf (← values c fuel indices)
      element (← tableOf n) k
    | .assign op place e =>
      let p ← placeOf c fuel place
      let v ← value c fuel e
      let v ← match op with
        | none => pure v
        | some op => do pure (.number (op.apply (← load p).toNumber v.toNumber))
      save c p v
      return v
    | .step isBefore isUp place =>
      let p ← placeOf c fuel place
      let old := (← load p).toNumber
      let new := if isUp then old + 1 else old - 1
      save c p (.number new)
      return .number (if isBefore then new else old)
    | .arithmetic op a b =>
      let x := (← value c fuel a).toNumber
      let y := (← value c fuel b).toNumber
      return .number (op.apply x y)
    | .compare r a b =>
      let v ← value c fuel a
      let w ← value c fuel b
      return ofBool (r.holds (v.order (← convFormat) w))
    | .matches_ negated a b =>
      let v ← value c fuel a
      let r ← regexOf c fuel b
      return ofBool ((← isFound r v) != negated)
    | .joined a b =>
      let s ← textOf (← value c fuel a)
      let t ← textOf (← value c fuel b)
      return .text (s ++ t)
    | .both a b =>
      if (← value c fuel a).isTrue then return ofBool (← value c fuel b).isTrue
      else return .number 0
    | .either a b =>
      if (← value c fuel a).isTrue then return .number 1
      else return ofBool (← value c fuel b).isTrue
    | .not e => return ofBool !(← value c fuel e).isTrue
    | .negative e => return .number (-(← value c fuel e).toNumber)
    | .positive e => return .number (← value c fuel e).toNumber
    | .choice test a b =>
      if (← value c fuel test).isTrue then value c fuel a else value c fuel b
    | .isIn indices n =>
      let k ← keyOf (← values c fuel indices)
      return ofBool (← hasElement (← tableOf n) k)
    | .call f args => call c fuel f args
    | .builtin b args => builtin c fuel b args
    | .read place =>
      match ← nextRecord c textOfArgument 100000 with
      | none => return .number 0
      | some s =>
        keep c fuel place (.read s)
        return .number 1
    | .readFile place file =>
      let name ← textOf (← value c fuel file)
      readInto c fuel place name false
    | .readCommand place command =>
      let name ← textOf (← value c fuel command)
      readInto c fuel place name true
    | .list es =>
      let vs ← values c fuel es
      return vs.getLastD Value.unset

def values (c : Call) : Nat → List Expr → Run (List Value)
  | 0, _ => throw .failed
  | _, [] => return []
  | fuel + 1, e :: es => do
    let v ← value c fuel e
    return v :: (← values c fuel es)

def regexOf (c : Call) : Nat → Expr → Run Regex
  | 0, _ => throw .failed
  | fuel + 1, e => do
    match e with
    | .regex r => return r
    | e => patternOf c (← textOf (← value c fuel e))

def placeOf (c : Call) : Nat → Expr → Run Place
  | 0, _ => throw .failed
  | fuel + 1, e => do
    match e with
    | .field e => return .field (← fieldNumber c (← value c fuel e))
    | .element n indices =>
      let k ← keyOf (← values c fuel indices)
      let t ← tableOf n
      changeTable t (touchKey k)
      return .element t k
    | .variable_ n => return .scalar n
    | _ => throw .failed

def keep (c : Call) : Nat → Option Expr → Value → Run Unit
  | 0, _, _ => throw .failed
  | fuel + 1, place, v => do
    match place with
    | some e => save c (← placeOf c fuel e) v
    | none => setRecord c v

def readInto (c : Call) : Nat → Option Expr → Octets → Bool → Run Value
  | 0, _, _, _ => throw .failed
  | fuel + 1, place, name, isCommand => do
    match ← readFrom c name isCommand with
    | .inr () => return .number (-1)
    | .inl none => return .number 0
    | .inl (some s) =>
      keep c fuel place (.read s)
      return .number 1

def cellOf (c : Call) : Nat → Expr → Run Cell
  | 0, _ => throw .failed
  | fuel + 1, e => do
    match e with
    | .variable_ n =>
      let t ← tableOf n
      return { value := ← scalar n, table := some t }
    | e => return { value := ← value c fuel e }

def cellsOf (c : Call) : Nat → List Expr → Run (List Cell)
  | 0, _ => throw .failed
  | _, [] => return []
  | fuel + 1, e :: es => do
    let cell ← cellOf c fuel e
    return cell :: (← cellsOf c fuel es)

def call (c : Call) : Nat → Nat → List Expr → Run Value
  | 0, _, _ => throw .failed
  | fuel + 1, f, args => do
    match (← get).program.functions[f]? with
    | none => return .unset
    | some function =>
      let given ← cellsOf c fuel args
      let arity := function.arity.getD 0
      let before := (← get).cells
      let size := (← get).tables.size
      let cells := given.toArray ++ Array.replicate (arity - given.length) {}
      modify fun w => { w with cells }
      let result ← tryCatch
        (do
          perform c fuel function.body
          return Value.unset) fun
        | .returned v => return v
        | h => throw h
      modify fun w => { w with cells := before, tables := w.tables.extract 0 size }
      return result

def builtin (c : Call) : Nat → Builtin → List Expr → Run Value
  | 0, _, _ => throw .failed
  | fuel + 1, b, args => do
    let real (f : Float → Float) : Run Value := do
      let vs ← values c fuel args
      return .number (f (vs.headD .unset).toNumber)
    let text (f : Octets → Octets) : Run Value := do
      let vs ← values c fuel args
      return .text (f (← textOf (vs.headD .unset)))
    match b with
    | .sin => real Float.sin
    | .cos => real Float.cos
    | .exp => real Float.exp
    | .log => real Float.log
    | .sqrt => real Float.sqrt
    | .int => real fun x => if x < 0 then x.ceil else x.floor
    | .atan2 =>
      match ← values c fuel args with
      | [y, x] => return .number (Float.atan2 y.toNumber x.toNumber)
      | _ => return .unset
    | .tolower => text Octets.toLower
    | .toupper => text Octets.toUpper
    | .rand => chance
    | .srand => return ← seeded ((← values c fuel args).head?)
    | .length =>
      match args with
      | [] => return ofNat (← textOf (← record)).length
      | [.variable_ n] =>
        let t ← table? n
        match t.map (·.size) with
        | some (size + 1) => return ofNat (size + 1)
        | _ => return ofNat (← textOf (← scalar n)).length
      | e :: _ => return ofNat (← textOf (← value c fuel e)).length
    | .index =>
      match ← values c fuel args with
      | [v, w] =>
        let s ← textOf v
        let t ← textOf w
        return ofNat (position t 1 s)
      | _ => return .unset
    | .substr =>
      let vs ← values c fuel args
      let s ← textOf (vs.headD .unset)
      let start := whole ((vs[1]?).getD Value.unset).toNumber
      return .text (part s start ((vs[2]?).map fun v => whole v.toNumber))
    | .match_ =>
      match args with
      | [e, r] =>
        let s ← textOf (← value c fuel e)
        let r ← regexOf c fuel r
        let (start, length) : Int × Int := match Regex.find? { text := s.toArray } r 0 with
          | some m => (m.start + 1, m.stop - m.start)
          | none => (0, -1)
        setGlobal (usual "RSTART") (.number (Float.ofInt start))
        setGlobal (usual "RLENGTH") (.number (Float.ofInt length))
        return .number (Float.ofInt start)
      | _ => return .unset
    | .split =>
      match args with
      | e :: .variable_ n :: more =>
        let s ← textOf (← value c fuel e)
        let splitter ← match more with
          | [.regex r] => pure (.regex r)
          | [e] =>
            let v ← value c fuel e
            splitterOf c (← textOf v)
          | _ => splitterOf c (← globalText "FS")
        let parts := splitter.apply s
        let t ← tableOf n
        changeTable t fun _ => Table.ofList (parts.map .read)
        return ofNat parts.length
      | _ => return .unset
    | .sub => substitute c fuel false args
    | .gsub => substitute c fuel true args
    | .sprintf => return .text (← formatted c "sprintf" false (← values c fuel args))
    | .system =>
      let vs ← values c fuel args
      let command ← textOf (vs.headD .unset)
      flushAll
      return ofNat (statusOf (← act (c.run (shell command))))
    | .close =>
      let vs ← values c fuel args
      close c (← textOf (vs.headD .unset))
    | .fflush =>
      match ← values c fuel args with
      | [] =>
        flushAll
        return .number 0
      | v :: _ =>
        let name ← textOf v
        if name.isEmpty || (← get).writers.any (·.name = name) then
          flushAll
          return .number 0
        else return .number (-1)

def substitute (c : Call) : Nat → Bool → List Expr → Run Value
  | 0, _, _ => throw .failed
  | fuel + 1, isGlobal, args => do
    match args with
    | r :: by_ :: more =>
      let r ← regexOf c fuel r
      let by_ ← textOf (← value c fuel by_)
      let place := more.headD (.field (.number 0))
      let p ← if place.isPlace then some <$> placeOf c fuel place else pure none
      let s ← textOf (← match p with
        | some p => load p
        | none => value c fuel place)
      let subject : Regex.Subject := { text := s.toArray }
      let found := if isGlobal then Regex.all subject r else (Regex.find? subject r 0).toList
      match p with
      | some p =>
        if !found.isEmpty then save c p (.text ((replaced subject by_ 0 found).flatten))
      | none => pure ()
      return ofNat found.length
    | _ => return .unset

def optional (c : Call) : Nat → Option Expr → Run Value
  | 0, _ => throw .failed
  | fuel + 1, e => do
    match e with
    | some e => value c fuel e
    | none => return .unset

def write (c : Call) : Nat → Option Output → Octets → Run Unit
  | 0, _, _ => throw .failed
  | fuel + 1, to_, s => do
    match to_ with
    | none => putMain s
    | some (.file e) => writeTo c (← value c fuel e) false false s
    | some (.append e) => writeTo c (← value c fuel e) false true s
    | some (.pipe e) => writeTo c (← value c fuel e) true false s

def perform (c : Call) : Nat → Statement → Run Unit
  | 0, _ => throw .failed
  | fuel + 1, s => do
    match s with
    | .expr e => discard (value c fuel e)
    | .print es to_ =>
      let format := (← global (usual "OFMT")).toText usualFormat
      let vs ← if es.isEmpty then do pure [← record] else values c fuel es
      let between ← globalText "OFS"
      let ending ← globalText "ORS"
      write c fuel to_ (Octets.join between (vs.map (·.toText format)) ++ ending)
    | .printf es to_ =>
      let vs ← values c fuel es
      let s ← formatted c "printf" to_.isNone vs
      write c fuel to_ s
    | .block ss => performAll c fuel ss
    | .choice test a b =>
      if (← value c fuel test).isTrue then perform c fuel a else perform c fuel b
    | .whileLoop test body =>
      loop (do return (← value c fuel test).isTrue) (perform c fuel body) (pure ()) rounds
    | .doLoop body test =>
      if ← round (perform c fuel body) then
        loop (do return (← value c fuel test).isTrue) (perform c fuel body) (pure ()) rounds
    | .forLoop start test after body =>
      perform c fuel start
      let goesOn : Run Bool := match test with
        | some e => do return (← value c fuel e).isTrue
        | none => return true
      loop goesOn (perform c fuel body) (perform c fuel after) rounds
    | .forIn place n body =>
      let t ← tableOf n
      changeTable t Table.withTexts
      let keys := (((← get).tables[t]?).map Table.keys).getD []
      performKeys c fuel place body keys
    | .break_ => throw .broken
    | .continue_ => throw .continued
    | .next => throw .next
    | .nextFile => throw .nextFile
    | .exit e =>
      match e with
      | some e =>
        let n := whole (← value c fuel e).toNumber
        modify fun w => { w with status := (n % 256).toNat }
      | none => pure ()
      throw .exit
    | .return_ e => throw (.returned (← optional c fuel e))
    | .delete n indices =>
      let k ← keyOf (← values c fuel indices)
      changeTable (← tableOf n) (·.erase (keyText k))
    | .deleteAll n => changeTable (← tableOf n) fun _ => {}

def performAll (c : Call) : Nat → List Statement → Run Unit
  | 0, _ => throw .failed
  | _, [] => pure ()
  | fuel + 1, s :: ss => do
    perform c fuel s
    performAll c fuel ss

def performKeys (c : Call) : Nat → Expr → Statement → List Octets → Run Unit
  | 0, _, _, _ => throw .failed
  | _, _, _, [] => pure ()
  | fuel + 1, place, body, k :: ks => do
    save c (← placeOf c fuel place) (.text k)
    if ← round (perform c fuel body) then performKeys c fuel place body ks

end

def selects (c : Call) (i : Nat) (r : Rule) : Run Bool := do
  let holds (e : Expr) : Run Bool := do return (← value c depth e).isTrue
  let turn (inRange : Bool) : Run Unit :=
    modify fun w => { w with ranges := w.ranges.setIfInBounds i inRange }
  match r.condition with
  | .always => return true
  | .holds e => holds e
  | .between first last =>
    let inside := ((← get).ranges[i]?).getD false
    let begins ← if inside then pure true else holds first
    if begins then turn !(← holds last)
    return begins

def judge (c : Call) : Nat → List Rule → Run Unit
  | _, [] => pure ()
  | i, r :: rest => do
    if ← selects c i r then perform c depth r.action
    judge c (i + 1) rest

def goThrough (c : Call) : Nat → Run Unit
  | 0 => pure ()
  | fuel + 1 => do
    match ← nextRecord c textOfArgument 100000 with
    | none => pure ()
    | some s =>
      setRecord c (.read s)
      let rules := (← get).program.rules
      tryCatch (judge c 0 rules) fun
        | .next => pure ()
        | .nextFile => modify fun w => { w with input := none }
        | h => throw h
      goThrough c fuel

inductive Outcome where
  | finished
  | left
  | failed
  deriving DecidableEq, Repr

def phase (work : Run Unit) : Run Outcome :=
  tryCatch (do work; return .finished) fun
    | .failed => return .failed
    | _ => return .left

def program (c : Call) (p : Program) : Run Nat := do
  let begun ← phase (p.begins.forM (perform c depth))
  let hasMain := !p.rules.isEmpty || !p.ends.isEmpty
  let gone ← if begun = .finished && hasMain then phase (goThrough c rounds) else pure begun
  if gone ≠ .failed then discard (phase (p.ends.forM (perform c depth)))
  finish c
  return (← get).status

end Run

end DeployForge.Shell.Awk
