import DeployForge.Shell.Find.Reading
import DeployForge.Shell.Utility.Listing

namespace DeployForge.Shell.Find

structure Visit where
  path : Octets
  start : Octets
  depth : Nat
  location : Location
  entry : Entry
  follows : Bool

structure Batch where
  key : Nat
  isInside : Bool
  words : List Octets
  directory : Octets
  files : List Octets

structure Work where
  status : Nat := 0
  isPruned : Bool := false
  batches : List Batch := []
  /-- What was written to files, the latest first. -/
  written : List (Octets × List Octets) := []

abbrev Run := ExceptT Unit (StateT Work Act)

namespace Visit

def item (v : Visit) : Utility.Item :=
  { name := v.path, path := v.path, location := v.location, entry := v.entry }

def inner (v : Visit) : Octets := (v.path.drop v.start.length).dropWhile (· = '/')

def above (v : Visit) : Octets :=
  let p := Octets.withoutSlashes v.path
  if !v.path.contains '/' then ['.']
  else if p.isEmpty then []
  else if p.contains '/' then ((p.reverse.dropWhile (· ≠ '/')).drop 1).reverse
  else p

def last (v : Visit) : Octets :=
  let base := Octets.baseName v.path
  if base ≠ ['/'] && v.path.getLast? = some '/' then base ++ ['/'] else base

def besides (v : Visit) : Octets :=
  let base := Octets.baseName v.path
  if base = ['/'] then base else "./".toList ++ base

def letter (e : Entry) : Char :=
  match e with
  | .directory => 'd'
  | .link _ => 'l'
  | .device _ => 'c'
  | _ => 'f'

def crossed (m : Machine) (v : Visit) : Option Entry :=
  if v.follows then (m.storage.entry? v.location)
  else
    match m.storage.walk true (40 * 4096) 40 [] v.location with
    | .ok l => m.storage.entry? l
    | .error _ => none

def age (m : Machine) (v : Visit) : Int := m.storage.clock + 1 - m.storage.time v.location

def holds (m : Machine) (v : Visit) : Test → Bool
  | .always => true
  | .never => false
  | .name folds p => accepts folds p (Octets.baseName v.path)
  | .path folds p => accepts folds p v.path
  | .target folds p =>
    match v.entry with
    | .link target => accepts folds p target
    | _ => false
  | .expression folds r =>
    let subject : Regex.Subject := { text := v.path.toArray, folds }
    (Regex.endsAt subject r 0).any (·.position = subject.length)
  | .kind letters crosses =>
    if crosses then
      match crossed m v with
      | some e => letters.contains (letter e)
      | none => letters.contains 'l'
    else letters.contains (letter v.entry)
  | .size unit b => b.holds ((v.item.size + unit - 1) / unit)
  | .isEmpty =>
    match v.entry with
    | .directory => m.storage.isEmptyDirectory v.location
    | .file content => content.isEmpty
    | _ => false
  | .rights how bits onDirectory =>
    let wanted := if v.entry = .directory then onDirectory else bits
    let mode := m.storage.mode v.location
    match how with
    | .exactly => mode = wanted
    | .every => mode &&& wanted = wanted
    | .any => mode &&& wanted ≠ 0
  | .newer t => t < m.storage.time v.location
  | .days b => b.holds (v.age m / 86400000000).toNat
  | .minutes b =>
    let unit : Int := 60000000
    let age := v.age m
    let limit : Int := b.number * unit
    match b.relation with
    | .lt => age < limit
    | .gt => limit < age
    | .eq => limit - unit ≤ age && age < limit
  | .owner b => b.holds 0
  | .links b => b.holds (Utility.Show.linkCount m v.item)
  | .inode b => b.holds v.item.inode
  | .same l => v.location = l
  | .leadsSomewhere => (crossed m v).isSome
  | .isRunnable =>
    match crossed m v with
    | some .directory => true
    | some _ =>
      match m.storage.walk true (40 * 4096) 40 [] v.location with
      | .ok l => m.storage.mode l &&& 73 ≠ 0
      | .error _ => false
    | none => false

def field (m : Machine) (v : Visit) (f : Format) (kind : Char) : Octets :=
  let bits := m.storage.mode v.location
  let text (s : Octets) : Octets := f.text s
  match kind with
  | 'a' | 'c' | 't' =>
    text (Calendar.shown (.ofSeconds Calendar.present) "%a %b %e %H:%M:%S.0000000000 %Y".toList)
  | 'p' => text v.path
  | 'f' => text v.last
  | 'h' => text v.above
  | 'P' => text v.inner
  | 'H' => text v.start
  | 'd' => f.integer v.depth
  | 's' => text (Octets.ofNat v.item.size)
  | 'S' => text ['1']
  | 'm' => f.unsigned 'o' bits
  | 'M' => text (Mode.kindLetter v.entry :: Mode.letters bits)
  | 'y' => text [letter v.entry]
  | 'Y' =>
    match v.entry with
    | .link _ => text [((crossed m v).map letter).getD 'N']
    | e => text [letter e]
  | 'l' =>
    match v.entry with
    | .link target => text target
    | _ => text []
  | 'L' =>
    match v.entry with
    | .link target => text (" -> ".toList ++ target)
    | _ => text []
  | 'u' | 'g' => text "root".toList
  | 'U' | 'G' => text ['0']
  | 'n' => text (Octets.ofNat (Utility.Show.linkCount m v.item))
  | 'k' => text (Octets.ofNat v.item.blocks)
  | 'b' => text (Octets.ofNat (v.item.blocks * 2))
  | 'i' => text (Octets.ofNat v.item.inode)
  | 'D' => text "254".toList
  | 'F' => text "ext4".toList
  | _ => text []

def shown (m : Machine) (v : Visit) : List Piece → Octets
  | [] | .stop :: _ => []
  | .text s :: rest => s ++ shown m v rest
  | .field f kind :: rest => field m v f kind ++ shown m v rest
  | .time f directive :: rest =>
    let seconds := Calendar.present + (m.storage.time v.location).fdiv 1000000
    let s := match directive with
      | '@' => Octets.ofInt seconds ++ ".0000000000".toList
      | '+' => Calendar.shown (.ofSeconds seconds) "%Y-%m-%d+%H:%M:%S.0000000000".toList
      | 'S' => Calendar.shown (.ofSeconds seconds) "%S.0000000000".toList
      | 'T' => Calendar.shown (.ofSeconds seconds) "%H:%M:%S.0000000000".toList
      | _ => Calendar.shown (.ofSeconds seconds) ['%', directive]
    f.text s ++ shown m v rest

end Visit

namespace Run

def act {α : Type} (a : Act α) : Run α := ExceptT.lift (StateT.lift a)

def fault (c : Call) (text : Octets) : Run Unit := do
  act (c.complain text)
  modify fun w => { w with status := 1 }

def faultOf (c : Call) (p : Octets) (e : OsError) : Run Unit :=
  fault c (quoted p ++ ": ".toList ++ .ofString e.text)

def put (file : Option Octets) (s : Octets) : Run Unit := do
  match file with
  | none => act (Act.put s)
  | some name =>
    modify fun w =>
      let before := (w.written.lookup name).getD []
      { w with written := (name, s :: before) :: w.written.filter (·.1 ≠ name) }

def filled (path : Octets) : Octets → Octets
  | '\x7b' :: '\x7d' :: rest => path ++ filled path rest
  | ch :: rest => ch :: filled path rest
  | [] => []

def inDirectory {α : Type} (p : Option Octets) (work : Act α) : Act α := do
  let storage := (← get).storage
  let place := storage.place
  let target := p.bind fun p =>
    match storage.status true p with
    | .ok (l, .directory) => some l
    | _ => none
  modify fun m => { m with storage := { m.storage with place := target.getD place } }
  let result ← work
  modify fun m => { m with storage := { m.storage with place } }
  return result

def start (c : Call) (directory : Option Octets) (words : List Octets) : Run Bool := do
  match ← act (inDirectory directory (c.run words)) with
  | .ok { signal := some n, .. } =>
    act (c.complain (quoted (words.headD []) ++ " terminated by signal ".toList ++ Octets.ofNat n))
    return false
  | .ok ending => return ending.status = 0
  | .error e =>
    act (c.complain (quoted (words.headD []) ++ ": ".toList ++ .ofString e.text))
    return false

def flush (c : Call) (b : Batch) : Run Unit := do
  let isFine ← start c (if b.isInside then some b.directory else none) (b.words ++ b.files)
  modify fun w => { w with
    batches := w.batches.filter (·.key ≠ b.key)
    status := if isFine then w.status else 1 }

def gather (c : Call) (v : Visit) (key : Nat) (isInside : Bool) (words : List Octets) :
    Run Unit := do
  let directory := if isInside then Octets.directoryName v.path else ['.']
  let name := if isInside then v.besides else v.path
  match (← get).batches.find? (·.key = key) with
  | some b =>
    if b.directory ≠ directory then flush c b
  | none => pure ()
  let w ← get
  match w.batches.find? (·.key = key) with
  | some b =>
    let grown := { b with files := b.files ++ [name] }
    set { w with batches := w.batches.map fun (o : Batch) => if o.key = key then grown else o }
  | none =>
    let b : Batch := { key, isInside, words, directory, files := [name] }
    set { w with batches := w.batches ++ [b] }

def consents (v : Visit) (name : Octets) : Act Bool := do
  Act.writeTo 2 ("< ".toList ++ name ++ " ... ".toList ++ v.path ++ " > ? ".toList)
  let m ← get
  match m.readable 0 with
  | .error _ => return false
  | .ok text =>
    let line := text.takeWhile (· ≠ '\n')
    set (m.advance 0 (min text.length (line.length + 1)))
    return line.head? = some 'y' || line.head? = some 'Y'

def perform (c : Call) (v : Visit) (a : Action) : Run Bool := do
  match a with
  | .print mark file =>
    put file (v.path ++ [mark])
    return true
  | .format pieces file =>
    put file (v.shown (← act get) pieces)
    return true
  | .run isInside asks words =>
    if asks then
      if !(← act (consents v (words.headD []))) then return false
    let name := if isInside then v.besides else v.path
    start c (if isInside then some (Octets.directoryName v.path) else none)
      (words.map (filled name))
  | .gather key isInside words =>
    gather c v key isInside words
    return true
  | .delete =>
    if v.path = ['.'] then return true
    let result ← act (if v.entry = .directory then Act.store (·.removeDirectory v.path)
      else Act.unlink v.path)
    match result with
    | .ok () => return true
    | .error e =>
      fault c ("cannot delete ".toList ++ quoted v.path ++ ": ".toList ++ .ofString e.text)
      return false
  | .prune =>
    modify fun w => { w with isPruned := true }
    return true
  | .quit => throw ()

def ask (c : Call) (v : Visit) : Query → Run Bool
  | .test t => do return v.holds (← act get) t
  | .action a => perform c v a
  | .not q => do return !(← ask c v q)
  | .both p q => do
    if ← ask c v p then ask c v q else return false
  | .either p q => do
    if ← ask c v p then return true else ask c v q
  | .list p q => do
    discard (ask c v p)
    ask c v q

def entryAt (s : Storage) (follows : Bool) (l : Location) : Option (Location × Entry) :=
  let own := (s.entry? l).map fun e => (l, e)
  if follows then
    match s.walk true (40 * 4096) 40 [] l with
    | .ok target => ((s.entry? target).map fun e => (target, e)).or own
    | .error _ => own
  else own

def visit (c : Call) (g : Given) : Nat → List (Location × Octets) → Visit → Run Unit
  | 0, _, _ => pure ()
  | fuel + 1, above, v => do
    let judge : Run Unit := do
      if g.range.least ≤ v.depth then discard (ask c v g.query)
    modify fun w => { w with isPruned := false }
    if !g.range.isDeep then judge
    let isPruned := (← get).isPruned && !g.range.isDeep
    if v.entry = .directory && !isPruned && g.range.most.all (v.depth < ·) then
      let storage := (← act get).storage
      if storage.entry? v.location ≠ some .directory then faultOf c v.path .noEntry
      let above := (v.location, v.path) :: above
      let follows := g.range.follows = .always
      for name in storage.names v.location do
        let path := v.path ++ (if v.path.getLast? = some '/' then [] else ['/']) ++ .ofString name
        match entryAt (← act get).storage follows (v.location ++ [name]) with
        | none => faultOf c path .noEntry
        | some (location, entry) =>
          match if follows && entry = .directory then above.lookup location else none with
          | some before =>
            fault c ("File system loop detected; ".toList ++ quoted path
              ++ " is part of the same file system loop as ".toList ++ quoted before ++ ['.'])
          | none =>
            visit c g fuel above
              { path, start := v.start, depth := v.depth + 1, location, entry, follows }
    if g.range.isDeep then judge

def search (c : Call) (g : Given) : Run Unit := do
  for path in g.paths do
    let follows := g.range.follows ≠ .never
    let s := (← act get).storage
    let own := s.status false path
    match if follows then (match s.status true path with
        | .ok found => .ok found
        | .error _ => own) else own with
    | .ok (location, entry) =>
      visit c g 4096 [] { path, start := path, depth := 0, location, entry, follows }
    | .error e => faultOf c path e

def whole (c : Call) (g : Given) : Run Nat := do
  tryCatch (search c g) fun _ => pure ()
  for b in (← get).batches do flush c b
  for (name, content) in (← get).written do
    discard (act (Call.store name content.reverse.flatten))
  return (← get).status

end Run

def find (c : Call) : Act Nat := do
  let g ← given c
  match ← ((Run.whole c g).run).run {} with
  | (.ok status, _) => return status
  | (.error (), _) => return 1

end DeployForge.Shell.Find
