import DeployForge.Shell.Utility.Amount
import DeployForge.Shell.Utility.Calendar
import DeployForge.Shell.Utility.Paths

namespace DeployForge.Shell.Utility

def fronts (p : Octets) : List Octets :=
  let ends := (List.range p.length).filter fun i =>
    p[i]? ≠ some '/' && (p[i + 1]?).all (· = '/')
  (ends.map fun i => p.take (i + 1)).dropLast ++ [p]

/-- Makes the directories of a path that are missing. The flag says whether all went well. -/
def makeFronts (c : Call) (tells : Octets → Act Unit) : List Octets → Act Bool
  | [] => return true
  | p :: rest => do
    match (← get).seen? p with
    | some (_, .directory) => makeFronts c tells rest
    | some _ =>
      let e : OsError := if rest.isEmpty then .entryExists else .notDirectory
      c.cannot "cannot create directory" p e
      return false
    | none =>
      match ← Act.store (·.makeDirectory p 511) with
      | .ok () =>
        tells p
        makeFronts c tells rest
      | .error e =>
        c.cannot "cannot create directory" p e
        return false

def setModeAt (p : Octets) (change : Bool → Nat → Nat → Nat) : Act Unit :=
  modify fun m =>
    match m.seen? p with
    | some (l, e) =>
      let bits := change (e = .directory) m.storage.umask (m.storage.mode l)
      { m with storage := m.storage.setMode l bits }
    | none => m

def mkdir (c : Call) : Act Nat := do
  let g ← c.options [.valued "m" "mode", .plain "p" "parents", .plain "v" "verbose",
    .plain "Z" "", .optional "" "context"]
  if g.operands.isEmpty then c.missingOperand
  let spec ← match g.value? "mode" with
    | some s => (c.modeOf s).map some
    | none => pure none
  let tells (p : Octets) : Act Unit := do
    if g.has "verbose" then
      Act.putLine (c.name ++ ": created directory ".toList ++ Quote.always p)
  let marks (p : Octets) : Act Unit :=
    match spec with
    | some spec => setModeAt p fun isDirectory umask _ => spec.apply isDirectory umask 511
    | none => pure ()
  c.each g.operands fun p => do
    if g.has "parents" && !p.isEmpty then
      let isThere := ((← get).seen? p).isSome
      let isMade ← makeFronts c tells (fronts p)
      if isMade && !isThere then marks p
      return isMade
    else
      match ← Act.store (·.makeDirectory p 511) with
      | .ok () =>
        tells p
        marks p
        return true
      | .error e =>
        c.cannot "cannot create directory" p e
        return false

def removeParents (c : Call) (g : Given) : Nat → Octets → Act Bool
  | 0, _ => return true
  | fuel + 1, p => do
    let p := Octets.withoutSlashes p
    if !p.contains '/' then return true
    let parent := Octets.withoutSlashes (p.take (p.length - (Octets.baseName p).length))
    if parent.isEmpty then return true
    if g.has "verbose" then
      Act.putLine (c.name ++ ": removing directory, ".toList ++ Quote.always parent)
    match ← Act.store (·.removeDirectory parent) with
    | .ok () => removeParents c g fuel parent
    | .error e =>
      if g.has "ignore-fail-on-non-empty" && e = .notEmpty then return true
      c.cannot "failed to remove directory" parent e
      return false

def rmdir (c : Call) : Act Nat := do
  let g ← c.options [.plain "p" "parents", .plain "v" "verbose",
    .plain "" "ignore-fail-on-non-empty"]
  if g.operands.isEmpty then c.missingOperand
  c.each g.operands fun p => do
    if g.has "verbose" then
      Act.putLine (c.name ++ ": removing directory, ".toList ++ Quote.always p)
    match ← Act.store (·.removeDirectory p) with
    | .ok () => if g.has "parents" then removeParents c g p.length p else return true
    | .error e =>
      if g.has "ignore-fail-on-non-empty" && e = .notEmpty then return true
      c.cannot "failed to remove" p e
      return false

def touchTime (c : Call) (g : Given) : Act (Option Int) := do
  let scaled (t : Int) : Int := (t - Calendar.present) * 1000000
  match g.value? "reference", g.value? "date", g.value? "t" with
  | some p, _, _ =>
    match (← get).seen? p with
    | some (l, _) => return some ((← get).storage.time l)
    | none =>
      c.cannot "failed to get attributes of" p .noEntry
      Call.abort 1
  | _, some s, _ =>
    match Calendar.read? s with
    | some t => return some (scaled t)
    | none => c.fail 1 ("invalid date format ".toList ++ Quote.always s)
  | _, _, some s =>
    match Calendar.stamp? s with
    | some t => return some (scaled t)
    | none => c.fail 1 ("invalid date format ".toList ++ Quote.always s)
  | _, _, _ => return none

def touch (c : Call) : Act Nat := do
  let g ← c.options [.plain "a" "", .plain "c" "no-create", .valued "d" "date", .plain "f" "",
    .plain "h" "no-dereference", .plain "m" "", .valued "r" "reference", .valued "t" "",
    .valued "" "time"]
  let time ← touchTime c g
  if g.operands.isEmpty then c.misuseText 1 "missing file operand"
  let marks (l : Location) : Act Unit := modify fun m =>
    let storage := match time with
      | some t => m.storage.setTime l t
      | none => m.storage.touch l
    { m with storage }
  c.each g.operands fun p => do
    let m ← get
    match if g.has "no-dereference" then m.own? p else m.seen? p with
    | some (l, _) =>
      marks l
      return true
    | none =>
      if g.has "no-create" || g.has "no-dereference" then return true
      match m.openToWrite .keep false p with
      | .ok (o, m) =>
        set m
        match o.channel with
        | .file l => marks l
        | _ => pure ()
        return true
      | .error e =>
        if p.getLast? = some '/' then c.cannot "setting times of" p .noEntry
        else c.cannot "cannot touch" p e
        return false

structure Backup where
  suffix : Octets := ['~']
  /-- Whether it gets a number, if that is known: else it does where others have numbers. -/
  isNumbered : Option Bool := none

namespace Backup

def lastNumber (m : Machine) (p : Octets) : Nat :=
  let base := Octets.baseName p
  let names := match m.seen? (Octets.directoryName p) with
    | some (l, _) => m.storage.names l
    | none => []
  let numbers := names.filterMap fun name =>
    let name := Octets.ofString name
    let digits := (name.drop (base.length + 2)).dropLast
    if name = base ++ ".~".toList ++ digits ++ ['~'] then Octets.nat? digits else none
  numbers.foldl max 0

def path (m : Machine) (b : Backup) (p : Octets) : Octets :=
  let n := lastNumber m p
  if b.isNumbered.getD (0 < n) then p ++ ".~".toList ++ Octets.ofNat (n + 1) ++ ['~']
  else p ++ b.suffix

def ofGiven (c : Call) (g : Given) : Act (Option Backup) := do
  let asked := g.has "b" || g.has "backup" || g.has "suffix"
  if !asked then return none
  let choices := [["none", "off"], ["simple", "never"], ["existing", "nil"], ["numbered", "t"]]
  let m ← get
  let kind ← match g.value? "backup", m.value? "VERSION_CONTROL".toList with
    | some s, _ => c.chosen "backup type" choices s
    | none, some (l :: s) => c.chosen "$VERSION_CONTROL" choices (l :: s)
    | none, _ => pure "existing"
  let suffix := (g.value? "suffix").getD (m.valueOr "SIMPLE_BACKUP_SUFFIX" "~")
  let suffix := if suffix.isEmpty || suffix.contains '/' then ['~'] else suffix
  match kind with
  | "none" => return none
  | "simple" => return some { suffix, isNumbered := some false }
  | "numbered" => return some { suffix, isNumbered := some true }
  | _ => return some { suffix }

end Backup

def linkOne (c : Call) (g : Given) (backup : Option Backup) (source target : Octets) :
    Act Bool := do
  let isSymbolic := g.has "symbolic"
  let kind := if isSymbolic then "symbolic" else "hard"
  let m ← get
  let content : Option (Location × Entry) :=
    if g.has "logical" then m.seen? source else m.own? source
  if !isSymbolic then
    match content with
    | none =>
      let e := match m.storage.status false source with
        | .error e => e
        | .ok _ => .noEntry
      c.cannot "failed to access" source e
      return false
    | some (_, .directory) =>
      c.complain (Quote.ifNeeded source ++ ": hard link not allowed for directory".toList)
      return false
    | some _ => pure ()
  let old := m.own? target
  if g.has "force" || g.has "interactive" || backup.isSome then
    match old with
    | some (_, .directory) =>
      c.complain (Quote.ifNeeded target ++ ": cannot overwrite directory".toList)
      return false
    | some (l, _) =>
      if (if isSymbolic then m.own? source else content).map (·.1) = some l
          && backup.isNone then
        c.complain (Quote.always source ++ " and ".toList ++ Quote.always target
          ++ " are the same file".toList)
        return false
      if g.has "interactive" && !g.has "force" then
        if !(← c.asks ("replace ".toList ++ Quote.always target)) then return true
      match backup with
      | some b => discard (Act.rename target (b.path m target))
      | none => discard (Act.unlink target)
    | none => pure ()
  let m ← get
  let text := if g.has "relative" then
      let place := ((canonical m.storage .nothing (Octets.directoryName target)).toOption).getD []
      relative place (((canonical m.storage .nothing source).toOption).getD [])
    else source
  let result : Except OsError Unit ← match isSymbolic, content with
    | false, some (_, .file bytes) => do
      if (m.own? target).isSome then pure (.error .entryExists)
      else
        match m.openToWrite .truncate false target with
        | .error e => pure (.error e)
        | .ok (o, m) =>
          match o.channel with
          | .file l => set { m with storage := m.storage.put l bytes }
          | _ => pure ()
          pure (.ok ())
    | false, some (_, .link other) => Act.store (·.link other target)
    | _, _ => Act.store (·.link text target)
  match result with
  | .ok () =>
    if g.has "verbose" then
      let arrow := if isSymbolic then " -> " else " => "
      Act.putLine (Quote.always target ++ arrow.toList ++ Quote.always text)
    return true
  | .error e =>
    let from_ : Octets := if isSymbolic then if source.isEmpty then " -> ''".toList else []
      else if e = .entryExists then [] else " => ".toList ++ Quote.always source
    c.complain (("failed to create " ++ kind ++ " link ").toList ++ Quote.always target ++ from_
      ++ ": ".toList ++ .ofString e.text)
    return false

def ln (c : Call) : Act Nat := do
  let g ← c.options [.plain "b" "", .optional "" "backup", .plain "d" "directory",
    .plain "F" "", .plain "f" "force", .plain "i" "interactive", .plain "L" "logical",
    .plain "n" "no-dereference", .plain "P" "physical", .plain "r" "relative",
    .plain "s" "symbolic", .valued "S" "suffix", .valued "t" "target-directory",
    .plain "T" "no-target-directory", .plain "v" "verbose"]
  if g.operands.isEmpty then c.misuseText 1 "missing file operand"
  let backup ← Backup.ofGiven c g
  let into (directory : Octets) (sources : List Octets) : Act Nat :=
    c.each sources fun s => linkOne c g backup s (Octets.within directory (Octets.baseName s))
  let m ← get
  let leads (p : Octets) : Bool :=
    match if g.has "no-dereference" then m.own? p else m.seen? p with
    | some (_, .directory) => true
    | _ => false
  let target := g.operands.getLastD []
  if g.has "no-target-directory" then
    match g.operands with
    | [a, b] => c.each [a] fun a => linkOne c g backup a b
    | [a] => c.misuse 1 ("missing destination file operand after ".toList ++ Quote.always a)
    | _ :: _ :: extra :: _ => c.misuse 1 ("extra operand ".toList ++ Quote.always extra)
    | [] => return 1
  else
    match g.value? "target-directory", g.operands with
    | some d, sources =>
      match m.storage.status true d with
      | .ok (_, .directory) => into d sources
      | .ok _ => c.fail 1 ("target ".toList ++ Quote.always d ++ " is not a directory".toList)
      | .error e =>
        c.cannot "failed to access" d e
        return 1
    | none, [a] => into ['.'] [a]
    | none, [a, b] => if leads b then into b [a] else c.each [a] fun a => linkOne c g backup a b
    | none, operands =>
      if leads target then into target operands.dropLast
      else
        let e := match m.storage.status true target with
          | .error e => e
          | .ok _ => .notDirectory
        c.cannot "target" target e
        return 1

def newSize? (s : Octets) (old : Nat) : Option Nat := do
  let s := s.dropWhile isSpace
  let (mark, rest) := match s with
    | c :: rest => if "+-<>/%".toList.contains c then (some c, rest) else (none, s)
    | [] => (none, s)
  let n ← if rest.head?.map Char.isDigit = some true then Amount.read? rest else none
  match mark with
  | none => some n
  | some '+' => some (old + n)
  | some '-' => some (old - n)
  | some '<' => some (min old n)
  | some '>' => some (max old n)
  | some '/' => if n = 0 then none else some (old / n * n)
  | some _ => if n = 0 then none else some ((old + n - 1) / n * n)

def truncate (c : Call) : Act Nat := do
  let g ← c.options [.plain "c" "no-create", .plain "o" "io-blocks", .valued "r" "reference",
    .valued "s" "size"]
  let m ← get
  let reference ← match g.value? "reference" with
    | none => pure none
    | some p =>
      match m.seen? p with
      | some (_, .file bytes) => pure (some bytes.size)
      | some _ => pure (some 0)
      | none =>
        c.cannot "cannot stat" p .noEntry
        Call.abort 1
  let size := g.value? "size"
  if reference.isNone && size.isNone then
    c.misuseText 1 "you must specify either '--size' or '--reference'"
  match size with
  | some s => if (newSize? s 0).isNone then c.fail 1 ("Invalid number: ".toList ++ Quote.always s)
  | none => pure ()
  if g.operands.isEmpty then c.misuseText 1 "missing file operand"
  c.each g.operands fun p => do
    let m ← get
    if g.has "no-create" && (m.seen? p).isNone then return true
    match m.openToWrite .keep false p with
    | .error e =>
      c.complain ("cannot open ".toList ++ Quote.always p ++ " for writing: ".toList
        ++ .ofString e.text)
      return false
    | .ok (o, m) =>
      match o.channel with
      | .file l =>
        let old := (m.storage.content? l).getD .empty
        let n := match size with
          | some s => (newSize? s (reference.getD old.size)).getD 0
          | none => reference.getD 0
        let kept := old.extract 0 (min n old.size)
        let gap : ByteArray := (List.replicate (n - old.size) (0 : UInt8)).toByteArray
        set { m with storage := m.storage.put l (kept ++ gap) }
      | _ => set m
      return true

def isModeWord : Octets → Bool
  | '-' :: c :: _ => "rwxXstugoa,+=".toList.contains c || isOctal c
  | _ => false

def modeText (bits : Nat) : Octets :=
  Octets.inBase 8 4 bits ++ " (".toList ++ Mode.letters bits ++ [')']

def chmodOne (c : Call) (g : Given) (spec : Mode.Spec) (isWord : Bool) (p : Octets) : Act Bool := do
  let m ← get
  match m.storage.status true p with
  | .error e =>
    if !g.has "quiet" && !g.has "silent" then
      match m.own? p with
      | some (_, .link _) => c.cannot "cannot operate on dangling symlink" p e
      | _ => c.cannot "cannot access" p e
    if g.has "verbose" then Act.putLine (Quote.always p ++ " could not be accessed".toList)
    return false
  | .ok (l, e) =>
    let old := m.storage.mode l
    let new := spec.apply (e = .directory) m.storage.umask old
    set { m with storage := m.storage.setMode l new }
    let tells := g.has "verbose" || g.has "changes" && new ≠ old
    if tells then
      Act.putLine ("mode of ".toList ++ Quote.always p ++
        if new = old then " retained as ".toList ++ modeText old
        else " changed from ".toList ++ modeText old ++ " to ".toList ++ modeText new)
    let plain := spec.apply (e = .directory) 0 old
    if isWord && plain ≠ new then
      c.complain (Quote.ifNeeded p ++ ": new permissions are ".toList ++ Mode.letters new
        ++ ", not ".toList ++ Mode.letters plain)
      return false
    return true

def chmodAll (c : Call) (g : Given) (spec : Mode.Spec) (isWord : Bool) : Nat → Octets → Act Bool
  | 0, _ => return false
  | fuel + 1, p => do
    let isGood ← chmodOne c g spec isWord p
    match (← get).own? p with
    | some (l, .directory) =>
      let mut all := isGood
      for name in (← get).storage.names l do
        let q := Octets.within p (.ofString name)
        match (← get).own? q with
        | some (_, .link _) => pure ()
        | _ => if !(← chmodAll c g spec isWord fuel q) then all := false
      return all
    | _ => return isGood

def chmod (c : Call) : Act Nat := do
  let words := c.args.filter isModeWord
  let g ← c.optionsOf [.plain "c" "changes", .plain "f" "quiet", .plain "f" "silent",
    .plain "v" "verbose", .plain "R" "recursive", .valued "" "reference",
    .plain "" "preserve-root", .plain "" "no-preserve-root"] 1 true
    (c.args.filter fun a => !isModeWord a)
  let m ← get
  let (spec, operands) ← match g.value? "reference", words, g.operands with
    | some p, _, operands =>
      match m.seen? p with
      | some (l, _) => pure (Mode.Spec.exact (m.storage.mode l) 5, operands)
      | none =>
        c.cannot "failed to get attributes of" p .noEntry
        Call.abort 1
    | none, [], [] => c.missingOperand
    | none, [], s :: operands =>
      if operands.isEmpty then
        c.misuse 1 ("missing operand after ".toList ++ Quote.always s)
      match Mode.read? s with
      | some spec => pure (spec, operands)
      | none => c.misuse 1 ("invalid mode: ".toList ++ Quote.always s)
    | none, words, operands =>
      match Mode.read? (Octets.join [','] words) with
      | some spec => pure (spec, operands)
      | none => c.misuse 1 ("invalid mode: ".toList ++ Quote.always (Octets.join [','] words))
  if operands.isEmpty then c.missingOperand
  let isWord := !words.isEmpty
  c.each operands fun p =>
    if g.has "recursive" then chmodAll c g spec isWord 64 p else chmodOne c g spec isWord p

end DeployForge.Shell.Utility
