import DeployForge.Shell.Utility.Making

namespace DeployForge.Shell.Utility

abbrev Copy := StateT (List Location) Act

inductive Following where
  | always
  | named
  | never
  deriving DecidableEq, Repr

structure Manner where
  recursive : Bool := false
  following : Following := .always
  preserves : Bool := false
  verbose : Bool := false
  removes : Bool := false
  backup : Option Backup := none
  asks : Bool := false
  keeps : Bool := false
  refuses : Bool := false
  updates : Bool := false
  links : Bool := false
  symbolic : Bool := false
  hasContent : Bool := true
  hasMode : Bool := true
  mode : Option Mode.Spec := none
  isInstall : Bool := false

def arrow (a b : Octets) : Octets := Quote.always a ++ " -> ".toList ++ Quote.always b

def copyContent (c : Call) (w : Manner) (source target : Octets) (from_ : Location) : Act Bool := do
  let m ← get
  match m.read source with
  | .error e =>
    c.complain ("cannot open ".toList ++ Quote.always source ++ " for reading: ".toList
      ++ .ofString e.text)
    return false
  | .ok content =>
    let isNew := (m.seen? target).isNone
    match m.openToWrite (if w.hasContent then .truncate else .keep) false target with
    | .error e =>
      let e := if target.getLast? = some '/' && e = .isDirectory then .notDirectory else e
      c.cannot "cannot create regular file" target e
      return false
    | .ok (o, opened) =>
      let n := opened.opened.size
      let opened := { opened with opened := opened.opened.push o, table := [(1, n)] }
      match opened.write 1 (if w.hasContent then content else []) with
      | .error e =>
        c.cannot "error writing" target e
        return false
      | .ok written =>
        set { written with table := m.table }
        match o.channel with
        | .file l =>
          let bits := m.storage.mode from_
          modify fun m =>
            let s := m.storage
            let s := if w.isInstall then s
              else if w.preserves then (s.setMode l bits).setTime l (s.time from_)
              else if isNew && w.hasMode then s.setMode l (s.masked (bits % 512)) else s
            { m with storage := s }
        | _ => pure ()
        return true

def placeOne (c : Call) (w : Manner) (source target : Octets) (from_ : Location) (e : Entry) :
    Act Bool := do
  let tell : Act Unit := if w.verbose then Act.putLine (arrow source target) else pure ()
  if w.symbolic then
    if source.head? ≠ some '/' && target.contains '/' then
      c.complain (Quote.ifNeeded target
        ++ ": can make relative symbolic links only in current directory".toList)
      return false
    match ← Act.store (·.link source target) with
    | .ok () =>
      tell
      return true
    | .error f =>
      c.complain ("cannot create symbolic link ".toList ++ Quote.always target ++ " to ".toList
        ++ Quote.always source ++ ": ".toList ++ .ofString f.text)
      return false
  else
    match e with
    | .link text =>
      tell
      match ← Act.store (·.link text target) with
      | .ok () => return true
      | .error f =>
        c.cannot "cannot create symbolic link" target f
        return false
    | _ =>
      if w.links && ((← get).own? target).isSome then
        c.complain ("cannot create hard link ".toList ++ Quote.always target ++ " to ".toList
          ++ Quote.always source ++ ": File exists".toList)
        return false
      tell
      let isGood ← copyContent c w source target from_
      if isGood && w.isInstall then
        setModeAt target fun _ umask _ => (w.mode.getD (.exact 493 3)).apply false umask 0
      return isGood

/-- Deals with an entry in the way of another one. `none` says that the work is over, and whether
it went well. -/
def makeRoom (c : Call) (w : Manner) (source target : Octets) (from_ : Location)
    (old : Location) (isLink : Bool) : Copy (Option Bool) := do
  if w.refuses then
    c.complain ("not replacing ".toList ++ Quote.always target)
    return some false
  if w.keeps then return some true
  if w.updates && !((← getThe Machine).storage.time old < (← getThe Machine).storage.time from_) then
    return some true
  if w.asks then
    if !(← c.asks ("overwrite ".toList ++ Quote.always target)) then return some false
  if (← get).contains old then
    c.complain ("will not overwrite just-created ".toList ++ Quote.always target ++ " with ".toList
      ++ Quote.always source)
    return some false
  if let some b := w.backup then
    discard (Act.rename target (b.path (← getThe Machine) target))
  else if w.removes || isLink && w.following = .never then
    match ← Act.unlink target with
    | .ok () =>
      if w.verbose && w.removes then Act.putLine ("removed ".toList ++ Quote.always target)
    | .error e =>
      c.cannot "cannot remove" target e
      return some false
  return none

def copyTree (c : Call) (w : Manner) (top : Octets × Octets × Option Location) :
    Nat → Bool → Octets → Octets → Copy Bool
  | 0, _, _, _ => return false
  | fuel + 1, isTop, source, target => do
    let m ← getThe Machine
    let follows := w.following = .always || w.following = .named && isTop
    match m.storage.status follows source with
    | .error e =>
      c.cannot "cannot stat" source e
      return false
    | .ok (from_, .directory) =>
      if !w.recursive then
        if w.isInstall then c.complain ("omitting directory ".toList ++ Quote.always source)
        else c.complain ("-r not specified; omitting directory ".toList ++ Quote.always source)
        return false
      if !isTop && top.2.2 = some from_ then
        c.complain ("cannot copy a directory, ".toList ++ Quote.always top.1 ++ ", into itself, ".toList
          ++ Quote.always top.2.1)
        return false
      let result : Except OsError Bool ← match m.seen? target with
        | some (_, .directory) => pure (.ok false)
        | some _ =>
          c.complain ("cannot overwrite non-directory ".toList ++ Quote.always target
            ++ " with directory ".toList ++ Quote.always source)
          return false
        | none => do
          match ← Act.store (·.makeDirectory target 511) with
          | .ok () => pure (.ok true)
          | .error e => pure (.error e)
      match result with
      | .error e =>
        c.cannot "cannot create directory" target e
        return false
      | .ok isNew =>
        if isNew && w.verbose then Act.putLine (arrow source target)
        let m ← getThe Machine
        let place := (m.seen? target).map (·.1)
        let top := if isTop then (source, target, place) else top
        let mut isGood := true
        for name in m.storage.names from_ do
          let name := Octets.ofString name
          let isDone ← copyTree c w top fuel false (Octets.within source name)
            (Octets.within target name)
          if !isDone then isGood := false
        if isNew || w.preserves then
          let bits := (← getThe Machine).storage.mode from_
          setModeAt target fun _ umask _ =>
            if w.preserves then bits else bits &&& (Mode.all - umask)
        if w.preserves then
          modifyThe Machine fun m =>
            match m.seen? target with
            | some (l, _) =>
              { m with storage := m.storage.setTime l (m.storage.time from_) }
            | none => m
        return isGood
    | .ok (from_, e) =>
      let isLink := match e with
        | .link _ => true
        | _ => false
      match m.own? target with
      | none =>
        if target.getLast? = some '/' then
          let f := match m.storage.status false (Octets.withoutSlashes target) with
            | .error f => if f = .noEntry then .notDirectory else f
            | .ok _ => OsError.notDirectory
          c.cannot "cannot create regular file" target f
          return false
        match m.storage.status false target with
        | .error f =>
          if f ≠ .noEntry then
            c.cannot "cannot stat" target f
            return false
        | .ok _ => pure ()
        let isGood ← placeOne c w source target from_ e
        match (← getThe Machine).own? target with
        | some (l, _) => modify (l :: ·)
        | none => pure ()
        return isGood
      | some (old, oldEntry) =>
        match m.seen? target with
        | some (_, .directory) =>
          if !(isLink && oldEntry ≠ .directory) then
            c.complain ("cannot overwrite directory ".toList ++ Quote.always target
              ++ " with non-directory".toList)
            return false
        | some (l, _) =>
          let isSame := l = from_ || old = from_
          if isSame && !w.backup.isSome && !w.keeps then
            c.complain (Quote.always source ++ " and ".toList ++ Quote.always target
              ++ " are the same file".toList)
            return false
        | none =>
          if !isLink && !w.removes && !w.backup.isSome then
            c.complain ("not writing through dangling symlink ".toList ++ Quote.always target)
            return false
        match ← makeRoom c w source target from_ old isLink with
        | some isGood => return isGood
        | none =>
          let isGood ← placeOne c w source target from_ e
          match (← getThe Machine).own? target with
          | some (l, _) => modify (l :: ·)
          | none => pure ()
          return isGood

def moveOne (c : Call) (w : Manner) (source target : Octets) : Copy Bool := do
  let m ← getThe Machine
  match m.storage.status false source with
  | .error e =>
    c.cannot "cannot stat" source e
    return false
  | .ok (from_, e) =>
    let finish (backup : Octets) : Copy Bool := do
      match ← Act.rename source target with
      | .ok () =>
        if w.verbose then
          Act.putLine ("renamed ".toList ++ arrow source target ++ backup)
        match (← getThe Machine).own? target with
        | some (l, _) => modify (l :: ·)
        | none => pure ()
        return true
      | .error f =>
        if f = .notEmpty then c.cannot "cannot overwrite" target f
        else if f = .invalid then
          c.complain ("cannot move ".toList ++ Quote.always source
            ++ " to a subdirectory of itself, ".toList ++ Quote.always target)
        else
          c.complain ("cannot move ".toList ++ Quote.always source ++ " to ".toList
            ++ Quote.always target ++ ": ".toList ++ .ofString f.text)
        return false
    match m.own? target with
    | none =>
      match m.storage.status false target with
      | .error .notDirectory =>
        c.cannot "cannot stat" target .notDirectory
        return false
      | _ => finish []
    | some (old, oldEntry) =>
      if old = from_ then
        c.complain (Quote.always source ++ " and ".toList ++ Quote.always target
          ++ " are the same file".toList)
        return false
      else if oldEntry = .directory && e ≠ .directory then
        c.complain ("cannot overwrite directory ".toList ++ Quote.always target
          ++ " with non-directory".toList)
        return false
      else if e = .directory && oldEntry ≠ .directory && !w.backup.isSome then
        c.complain ("cannot overwrite non-directory ".toList ++ Quote.always target
          ++ " with directory ".toList ++ Quote.always source)
        return false
      else
        match ← makeRoom c { w with following := .always } source target from_ old false with
        | some isGood => return isGood
        | none =>
          finish (match w.backup with
            | some b => " (backup: ".toList ++ Quote.always (b.path m target) ++ [')']
            | none => [])

def transfer (c : Call) (g : Given) (one : Bool → Octets → Octets → Copy Bool)
    (prepare : Octets → Copy (Option Octets)) : Act Nat := do
  let strip (p : Octets) : Octets :=
    if g.has "strip-trailing-slashes" && !(Octets.withoutSlashes p).isEmpty then
      Octets.withoutSlashes p else p
  let into (directory : Octets) (sources : List Octets) : Act Nat := do
    let work : Copy Nat := do
      let mut status := 0
      let mut seen : List Octets := []
      for source in sources do
        let source := strip source
        if seen.contains source then
          let kind := match (← getThe Machine).seen? source with
            | some (_, .directory) => "directory"
            | _ => "file"
          c.complain (("warning: source " ++ kind ++ " ").toList ++ Quote.always source
            ++ " specified more than once".toList)
        else
          seen := source :: seen
          if g.has "parents" then
            match ← prepare (Octets.within directory source) with
            | some target => if !(← one true source target) then status := 1
            | none => status := 1
          else
            let name := Octets.baseName source
            let name := if name = ['.', '.'] then ['.'] else name
            if !(← one true source (Octets.within directory name)) then status := 1
      return status
    return (← work.run []).1
  let isDirectory (p : Octets) : Act Bool := do
    match (← get).seen? p with
    | some (_, .directory) => return true
    | _ => return false
  match g.value? "target-directory", g.operands with
  | _, [] => c.misuseText 1 "missing file operand"
  | some d, operands =>
    let m ← get
    match m.storage.status true d with
    | .ok (_, .directory) => into d operands
    | .ok _ =>
      c.cannot "target directory" d .notDirectory
      return 1
    | .error e =>
      c.cannot "target directory" d e
      return 1
  | none, [a] => c.misuse 1 ("missing destination file operand after ".toList ++ Quote.always a)
  | none, operands =>
    let target := operands.getLastD []
    let sources := operands.dropLast
    if g.has "no-target-directory" then
      match operands with
      | _ :: _ :: extra :: _ => c.misuse 1 ("extra operand ".toList ++ Quote.always extra)
      | _ =>
        let (isGood, _) ← (one true (strip (sources.headD [])) target).run []
        return if isGood then 0 else 1
    else if ← isDirectory target then into target sources
    else
      match sources with
      | [a] =>
        if g.has "parents" then
          c.misuseText 1 "with --parents, the destination must be a directory"
        let (isGood, _) ← (one true (strip a) target).run []
        return if isGood then 0 else 1
      | _ =>
        let e := match (← get).storage.status true target with
          | .error e => e
          | .ok _ => .notDirectory
        c.cannot "target" target e
        return 1

def makeParents (c : Call) (tells : Octets → Act Unit) (p : Octets) : Copy (Option Octets) := do
  match (fronts p).dropLast with
  | [] => return some p
  | ps => return if ← makeFronts c tells ps then some p else none

def cpChoices : List (String × List String) := [
  ("no-preserve", ["mode", "timestamps", "ownership", "links", "context", "xattr", "all"]),
  ("preserve", ["mode", "timestamps", "ownership", "links", "context", "xattr", "all"]),
  ("reflink", ["auto", "always", "never"]),
  ("sparse", ["never", "auto", "always"]),
  ("update", ["all", "none", "older"])]

def cp (c : Call) : Act Nat := do
  let g ← c.options [.plain "a" "archive", .plain "" "attributes-only", .plain "b" "",
    .optional "" "backup", .plain "d" "", .plain "f" "force", .plain "H" "",
    .plain "i" "interactive", .plain "L" "dereference", .plain "l" "link",
    .plain "n" "no-clobber", .plain "P" "no-dereference", .plain "p" "",
    .optional "" "preserve", .valued "" "no-preserve", .plain "" "parents",
    .plain "R" "recursive", .plain "r" "recursive", .optional "" "reflink",
    .plain "" "remove-destination", .valued "" "sparse", .plain "" "strip-trailing-slashes",
    .plain "s" "symbolic-link", .valued "S" "suffix", .valued "t" "target-directory",
    .plain "T" "no-target-directory", .plain "u" "", .optional "" "update",
    .plain "v" "verbose", .plain "x" "one-file-system", .plain "Z" "", .optional "" "context"]
  let archive := g.has "archive"
  let recursive := archive || g.has "recursive"
  let following : Following :=
    match g.lastOf? ["archive", "d", "H", "dereference", "no-dereference"] with
    | some "H" => .named
    | some "dereference" => .always
    | some _ => .never
    | none => if recursive then .never else .always
  for (name, choices) in cpChoices do
    match g.value? name with
    | some s => discard (c.chosen ("--" ++ name) (choices.map ([·])) s)
    | none => pure ()
  let backup ← Backup.ofGiven c g
  let last := g.lastOf? ["interactive", "no-clobber", "force"]
  if last = some "no-clobber" then
    c.complain ("warning: behavior of -n is non-portable and may change in future; "
      ++ "use --update=none instead").toList
  let w : Manner := {
    recursive, following
    preserves := archive || g.has "p" || g.has "preserve"
    verbose := g.has "verbose"
    removes := g.has "remove-destination"
    backup
    asks := g.has "interactive" && last ≠ some "no-clobber"
    keeps := last = some "no-clobber" || g.value? "update" = some "none".toList
    updates := g.has "u" || g.has "update" && (g.value? "update").all (· = "older".toList)
    links := g.has "link"
    symbolic := g.has "symbolic-link"
    hasContent := !g.has "attributes-only"
    hasMode := g.value? "no-preserve" ≠ some "mode".toList }
  let tells (p : Octets) : Act Unit := do
    if w.verbose then
      let d := g.operands.getLastD []
      let inner := (p.drop d.length).dropWhile (· = '/')
      Act.putLine (inner ++ " -> ".toList ++ p)
  transfer c g (copyTree c w ([], [], none) 256) (makeParents c tells)

def mv (c : Call) : Act Nat := do
  let g ← c.options [.plain "b" "", .optional "" "backup", .plain "f" "force",
    .plain "i" "interactive", .plain "n" "no-clobber", .plain "" "strip-trailing-slashes",
    .valued "S" "suffix", .valued "t" "target-directory", .plain "T" "no-target-directory",
    .plain "u" "", .optional "" "update", .plain "v" "verbose", .plain "Z" "context"]
  match g.value? "update" with
  | some s => discard (c.chosen "--update" [["all"], ["none"], ["older"]] s)
  | none => pure ()
  let backup ← Backup.ofGiven c g
  let last := g.lastOf? ["interactive", "no-clobber", "force"]
  let w : Manner := {
    verbose := g.has "verbose"
    backup
    asks := last = some "interactive"
    refuses := last = some "no-clobber"
    keeps := g.value? "update" = some "none".toList
    updates := g.has "u" || g.has "update" && (g.value? "update").all (· = "older".toList) }
  transfer c g (fun _ => moveOne c w) fun p => return some p

def install (c : Call) : Act Nat := do
  let g ← c.options [.plain "b" "", .optional "" "backup", .plain "c" "", .plain "C" "compare",
    .plain "d" "directory", .plain "D" "", .valued "g" "group", .valued "m" "mode",
    .valued "o" "owner", .plain "p" "preserve-timestamps", .plain "s" "strip",
    .valued "S" "suffix", .valued "t" "target-directory", .plain "T" "no-target-directory",
    .plain "v" "verbose"]
  let mode ← match g.value? "mode" with
    | some s => (c.modeOf s).map some
    | none => pure none
  let tells (p : Octets) : Act Unit := do
    if g.has "verbose" then
      Act.putLine (c.name ++ ": creating directory ".toList ++ Quote.always p)
  let backup ← Backup.ofGiven c g
  let w : Manner := {
    verbose := g.has "verbose"
    backup
    removes := true
    isInstall := true
    mode }
  if g.has "directory" then
    if g.operands.isEmpty then c.misuseText 1 "missing file operand"
    c.each g.operands fun p => do
      let isMade ← makeFronts c tells (fronts p)
      if isMade then
        setModeAt p fun _ umask _ => (mode.getD (.exact 493 3)).apply true umask 0
      return isMade
  else if g.has "D" then
    match g.value? "target-directory" with
    | some d => discard (makeFronts c tells (fronts d))
    | none =>
      if g.operands.length = 2 then
        discard ((makeParents c tells (g.operands.getLastD [])).run [])
    transfer c g (copyTree c w ([], [], none) 1) fun p => return some p
  else transfer c g (copyTree c w ([], [], none) 1) fun p => return some p

def describeEntry (m : Machine) (l : Location) : Entry → Octets
  | .directory => "directory".toList
  | .link _ => "symbolic link".toList
  | .file content => (if content.size = 0 then "regular empty file" else "regular file").toList
  | .program => (if m.storage.mode l = 0 then "regular empty file" else "regular file").toList
  | .device _ => "character special file".toList

def removeTree (c : Call) (g : Given) (asks : Bool) : Nat → Octets → Act Bool
  | 0, _ => return false
  | fuel + 1, p => do
    let m ← get
    match m.storage.status false p with
    | .error e =>
      if g.has "force" && (e = .noEntry || e = .notDirectory) then return true
      c.cannot "cannot remove" p e
      return false
    | .ok (l, .directory) =>
      if !g.has "recursive" && !(g.has "dir") then
        c.cannot "cannot remove" p .isDirectory
        return false
      let names := m.storage.names l
      if !g.has "recursive" && !names.isEmpty then
        c.cannot "cannot remove" p .notEmpty
        return false
      if asks && !names.isEmpty then
        if !(← c.asks ("descend into directory ".toList ++ Quote.always p)) then return true
      let mut isGood := true
      for name in names do
        if !(← removeTree c g asks fuel (Octets.within p (.ofString name))) then isGood := false
      if asks then
        if !(← c.asks ("remove directory ".toList ++ Quote.always p)) then return isGood
      match ← Act.store (·.removeDirectory p) with
      | .ok () =>
        if g.has "verbose" then Act.putLine ("removed directory ".toList ++ Quote.always p)
        return isGood
      | .error e =>
        if !(e = .notEmpty && asks) && isGood then c.cannot "cannot remove" p e
        return false
    | .ok (l, e) =>
      if asks then
        let kind := describeEntry m l e
        if !(← c.asks ("remove ".toList ++ kind ++ ' ' :: Quote.always p)) then return true
      match ← Act.unlink p with
      | .ok () =>
        if g.has "verbose" then Act.putLine ("removed ".toList ++ Quote.always p)
        return true
      | .error e =>
        c.cannot "cannot remove" p e
        return false

def rm (c : Call) : Act Nat := do
  let g ← c.options [.plain "d" "dir", .plain "f" "force", .plain "i" "", .plain "I" "",
    .optional "" "interactive", .plain "" "no-preserve-root", .optional "" "preserve-root",
    .plain "" "one-file-system", .plain "r" "recursive", .plain "R" "recursive",
    .plain "v" "verbose"]
  if g.operands.isEmpty then if g.has "force" then return 0 else c.missingOperand
  let last := g.lastOf? ["i", "I", "interactive", "force"]
  let word := (g.value? "interactive").getD "always".toList
  let asks := last = some "i" || last = some "interactive" && word = "always".toList
  let asksOnce := last = some "I" || last = some "interactive" && word = "once".toList
  let g := if last = some "i" || last = some "interactive" then
      { g with options := g.options.filter (·.1 ≠ "force") } else g
  let count := g.operands.length
  if asksOnce && (g.has "recursive" || 3 < count) then
    let noun := if count = 1 then " argument" else " arguments"
    let question := "remove ".toList ++ Octets.ofNat count ++ noun.toList
      ++ (if g.has "recursive" then " recursively" else "").toList
    if !(← c.asks question) then return 0
  c.each g.operands fun p => do
    let name := Octets.baseName p
    let m ← get
    if g.has "recursive" && (name = ['.'] || name = ['.', '.']) && (m.own? p).isSome then
      c.complain ("refusing to remove '.' or '..' directory: skipping ".toList ++ Quote.always p)
      return false
    else if g.has "recursive" && (m.seen? p).map (·.1) = some [] && !g.has "no-preserve-root" then
      if (Octets.withoutSlashes p).isEmpty then
        c.complainText "it is dangerous to operate recursively on '/'"
      else
        c.complain ("it is dangerous to operate recursively on ".toList ++ Quote.always p
          ++ " (same as '/')".toList)
      c.complainText "use --no-preserve-root to override this failsafe"
      return false
    else removeTree c g asks 256 p

end DeployForge.Shell.Utility
