import DeployForge.Shell.Pattern
import DeployForge.Shell.Regex.Reading
import DeployForge.Shell.Utility.Files

namespace DeployForge.Shell.Utility

inductive Cover where
  | part
  | words
  | line
  deriving DecidableEq, Repr

inductive Shows where
  | lines
  | parts
  | count
  | names
  | otherNames
  | nothing
  deriving DecidableEq, Repr

inductive Treatment where
  | asBinary
  | asText
  | skipped
  deriving DecidableEq, Repr

structure Grep where
  patterns : List Regex := []
  folds : Bool := false
  cover : Cover := .part
  inverts : Bool := false
  shows : Shows := .lines
  mark : Char := '\n'
  hasNumbers : Bool := false
  hasOffsets : Bool := false
  hasTabs : Bool := false
  hasNulls : Bool := false
  hasColors : Bool := false
  before : Option Nat := none
  after : Option Nat := none
  separator : Option Octets := some "--".toList
  most : Option Nat := none
  treatment : Treatment := .asBinary
  label : Octets := "(standard input)".toList
  isSilent : Bool := false
  recurses : Bool := false
  followsLinks : Bool := false
  skipsDirectories : Bool := false
  excluded : List Pattern := []
  included : List Pattern := []
  excludedDirectories : List Pattern := []
  leavesEarly : Bool := false

namespace Grep

structure Line where
  number : Nat
  offset : Nat
  subject : Regex.Subject

structure Source where
  name : Octets
  isNamed : Bool
  size : Nat

def covers (g : Grep) (s : Regex.Subject) (start stop : Nat) : Bool :=
  match g.cover with
  | .part => true
  | .words => !s.isWordBefore start && !s.isWordAt stop
  | .line => start = 0 && stop = s.length

/-- The first match at or after a position, and of those that begin there the longest. -/
def find? (g : Grep) (s : Regex.Subject) (n : Nat) : Option Regex.Match :=
  g.patterns.foldl (fun best r =>
    let found := match g.cover with
      | .part => Regex.find? s r n
      | _ => Regex.findWith (g.covers s) s r (s.length + 1 - n) n
    match best, found with
    | none, _ => found
    | _, none => best
    | some b, some m =>
      if m.start < b.start || m.start = b.start && b.stop < m.stop then found else best) none

def selects (g : Grep) (l : Line) : Bool := (g.find? l.subject 0).isSome != g.inverts

def parts (g : Grep) (s : Regex.Subject) : Nat → Nat → List Regex.Match
  | 0, _ => []
  | fuel + 1, n =>
    match g.find? s n with
    | none => []
    | some m =>
      if s.length ≤ m.start then []
      else if m.stop = m.start then parts g s fuel (m.start + 1)
      else m :: parts g s fuel m.stop

def paint (g : Grep) (color : String) (s : Octets) : Octets :=
  if g.hasColors then
    "\x1b[".toList ++ color.toList ++ "m\x1b[K".toList ++ s ++ "\x1b[m\x1b[K".toList
  else s

def between (g : Grep) (mark : Char) : Octets := g.paint "36" [mark]

def nameText (g : Grep) (source : Source) : Octets := g.paint "35" source.name

def head (g : Grep) (source : Source) (mark : Char) (number offset : Nat) (isEmpty : Bool) :
    Octets :=
  let width := if g.hasTabs then (Octets.ofNat source.size).length else 0
  let amount (n : Nat) : Octets :=
    g.paint "32" (Octets.padLeft ' ' width (.ofNat n)) ++ g.between mark
  (if source.isNamed then
    g.nameText source ++ if g.hasNulls then ['\x00'] else g.between mark
  else [])
    ++ (if g.hasNumbers then amount number else [])
    ++ (if g.hasOffsets then amount offset else [])
    ++ if g.hasTabs && !isEmpty && (source.isNamed || g.hasNumbers || g.hasOffsets) then ['\t']
      else []

def painted (g : Grep) (s : Regex.Subject) : Octets :=
  let (body, last) := (g.parts s (s.length + 1) 0).foldl (fun (body, n) m =>
    (body ++ (s.text.extract n m.start).toList ++ g.paint "01;31" (m.part s 0), m.stop)) ([], 0)
  body ++ (s.text.extract last s.length).toList

def lineText (g : Grep) (source : Source) (isSelected : Bool) (l : Line) : Octets :=
  let mark := if isSelected then ':' else '-'
  let hasMatches := isSelected != g.inverts
  if g.shows = .parts then
    if hasMatches then
      (g.parts l.subject (l.subject.length + 1) 0).flatMap fun m =>
        g.head source (if g.inverts then '-' else ':') l.number (l.offset + m.start) false
          ++ g.paint "01;31" (m.part l.subject 0) ++ [g.mark]
    else []
  else
    let body := if g.hasColors && hasMatches then g.painted l.subject else l.subject.text.toList
    g.head source mark l.number l.offset (l.subject.length = 0) ++ body ++ [g.mark]

structure Sweep where
  count : Nat := 0
  shown : Option Nat := none
  pending : Nat := 0
  hasShown : Bool := false
  last : Nat := 0

/-- What is searched no further than to the first line that is selected. -/
def isBrief (g : Grep) : Bool := g.shows ∉ [.lines, .parts, .count]

def showSelected (g : Grep) (source : Source) (lines : Array Line) (s : Sweep) (l : Line) :
    Act Unit := do
  let first := max ((s.shown.map (· + 1)).getD 1) (l.number - g.before.getD 0)
  if (g.before.isSome || g.after.isSome) && s.hasShown && s.shown ≠ some (first - 1) then
    match g.separator with
    | some text => Act.put (g.paint "36" text ++ ['\n'])
    | none => pure ()
  for near in lines.extract (first - 1) (l.number - 1) do
    Act.put (g.lineText source false near)
  Act.put (g.lineText source true l)

def sweep (g : Grep) (source : Source) (hasShown : Bool) (lines : Array Line) : Act Sweep := do
  let mut s : Sweep := { hasShown }
  for l in lines do
    let isFull := g.most = some s.count
    if isFull && s.pending = 0 then break
    if !isFull && g.selects l then
      let last := l.offset + l.subject.length + 1
      if g.shows = .lines || g.shows = .parts then
        g.showSelected source lines s l
        s := { s with
          shown := some l.number
          pending := g.after.getD 0
          hasShown := true }
      s := { s with count := s.count + 1, last }
      if g.isBrief then break
    else if 0 < s.pending then
      Act.put (g.lineText source false l)
      s := { s with shown := some l.number, pending := s.pending - 1 }
  return s

def linesOf (g : Grep) (text : Octets) : Array Line :=
  ((Octets.records g.mark text).1.foldl (fun (done, n, offset) line =>
    let subject : Regex.Subject := { text := line.toArray, folds := g.folds }
    (done.push ⟨n, offset, subject⟩, n + 1, offset + line.length + 1)) (#[], 1, 0)).1

def search (g : Grep) (c : Call) (source : Source) (hasShown : Bool) (text : Octets) :
    Act Sweep := do
  let isBinary := g.mark = '\n' && g.treatment ≠ .asText && text.contains '\x00'
  let showsLines := g.shows = .lines || g.shows = .parts
  let mut s : Sweep := { hasShown }
  if !isBinary then s ← g.sweep source hasShown (g.linesOf text)
  else if g.treatment = .asBinary then
    let lines := g.linesOf (text.map fun ch => if ch = '\x00' then '\n' else ch)
    let quiet := if showsLines then { g with shows := .nothing } else g
    s ← quiet.sweep source hasShown lines
    if showsLines && 0 < s.count then c.complain (source.name ++ ": binary file matches".toList)
  match g.shows with
  | .count =>
    if source.isNamed then
      Act.put (g.nameText source ++ if g.hasNulls then ['\x00'] else g.between ':')
    Act.put (Octets.ofNat s.count ++ ['\n'])
  | .names =>
    if 0 < s.count then Act.put (g.nameText source ++ [if g.hasNulls then '\x00' else '\n'])
  | .otherNames =>
    if s.count = 0 then Act.put (g.nameText source ++ [if g.hasNulls then '\x00' else '\n'])
  | .nothing => if g.leavesEarly && 0 < s.count then Call.abort 0
  | _ => pure ()
  return s

structure Result where
  hasMatch : Bool := false
  hasError : Bool := false
  hasShown : Bool := false

namespace Result

def add (r : Result) (s : Sweep) : Result :=
  { r with hasMatch := r.hasMatch || 0 < s.count, hasShown := s.hasShown }

def failed (r : Result) : Result := { r with hasError := true }

end Result

def complain (g : Grep) (c : Call) (text : Octets) : Act Unit := do
  if !g.isSilent then c.complain text

def matchesEnd (p : Pattern) : Bool → Octets → Bool
  | _, [] => false
  | isStart, ch :: rest => isStart && p.accepts (ch :: rest) || matchesEnd p (ch = '/') rest

def leavesOut (g : Grep) (name : Octets) : Bool :=
  g.excluded.any (matchesEnd · true name)
    || !g.included.isEmpty && !g.included.any (matchesEnd · true name)

def isOutput (g : Grep) (m : Machine) (l : Option Location) : Bool :=
  (g.shows = .lines || g.shows = .parts) && g.most.all (1 < ·)
    && l.isSome && m.fileOf? 1 = l

def clash (g : Grep) (c : Call) (name : Octets) (r : Result) : Act Result := do
  g.complain c (name ++ ": input file is also the output".toList)
  return r.failed

def searchInput (g : Grep) (c : Call) (isNamed : Bool) (r : Result) : Act Result := do
  let m ← get
  if g.isOutput m (m.fileOf? 0) then g.clash c g.label r
  else
    match ← Act.readAll 0 with
    | .error e =>
      g.complain c (g.label ++ ": ".toList ++ .ofString e.text)
      return r.failed
    | .ok text =>
      let s ← g.search c ⟨g.label, isNamed, text.length⟩ r.hasShown text
      if (m.fileOf? 0).isSome && g.most = some s.count then set ((← get).rewound m 0 s.last)
      return r.add s

def searchFile (g : Grep) (c : Call) (isNamed : Bool) (name : Octets) (r : Result) :
    Act Result := do
  let m ← get
  let at_ := ((m.storage.status true name).toOption).map (·.1)
  if g.isOutput m at_ then g.clash c name r
  else
    match m.read name with
    | .ok text => return r.add (← g.search c ⟨name, isNamed, text.length⟩ r.hasShown text)
    | .error e =>
      g.complain c (name ++ ": ".toList ++ .ofString e.text)
      if e = .isDirectory && g.shows ∈ [.count, .otherNames] then
        return (r.add (← g.search c ⟨name, isNamed, 0⟩ r.hasShown [])).failed
      else return r.failed

def searchDirectory (g : Grep) (c : Call) (isNamed : Bool) :
    Nat → List Location → Option Octets → Location → Result → Act Result
  | 0, _, _, _, r => return r
  | fuel + 1, above, directory, l, r => do
    let mut r := r
    for name in (← get).storage.names l do
      let base := Octets.ofString name
      let path := (directory.map (Octets.within · base)).getD base
      let m ← get
      let own := m.own? path
      let found := if g.followsLinks then m.seen? path else own
      match found with
      | some (here, .directory) =>
        if g.excludedDirectories.any (·.accepts base) then pure ()
        else if (l :: above).contains here then
          g.complain c (path ++ ": warning: recursive directory loop".toList)
        else r ← searchDirectory g c isNamed fuel (l :: above) (some path) here r
      | some (_, .file _) =>
        if !(g.excluded.any (·.accepts base))
            && (g.included.isEmpty || g.included.any (·.accepts base)) then
          r ← g.searchFile c isNamed path r
      | none =>
        if own.isSome then
          g.complain c (path ++ ": No such file or directory".toList)
          r := r.failed
      | _ => pure ()
    return r

def searchNamed (g : Grep) (c : Call) (names : Option Bool) (isMany : Bool) (name : Octets)
    (r : Result) : Act Result := do
  let m ← get
  if name = ['-'] then g.searchInput c (names.getD isMany) r
  else
    match m.seen? name with
    | some (l, .directory) =>
      if g.recurses then
        if g.excludedDirectories.any (matchesEnd · true name) then return r
        g.searchDirectory c (names.getD true) 4096 [] (some name) l r
      else if g.skipsDirectories then return r
      else g.searchFile c (names.getD isMany) name r
    | _ => if g.leavesOut name then return r else g.searchFile c (names.getD isMany) name r

end Grep

def grepFlags : List Flag :=
  ("0123456789".toList.map fun d => { letter := some d }) ++ [
    .plain "G" "basic-regexp", .plain "E" "extended-regexp", .plain "F" "fixed-strings",
    .plain "" "fixed-regexp", .plain "P" "perl-regexp", .valued "X" "matcher",
    .valued "A" "after-context", .valued "B" "before-context", .valued "C" "context",
    .valued "" "binary-files", .plain "" "line-buffered", .plain "b" "byte-offset",
    .optional "" "color", .optional "" "colour", .plain "c" "count", .valued "D" "devices",
    .valued "d" "directories", .valued "" "exclude", .valued "" "exclude-from",
    .valued "" "exclude-dir", .valued "f" "file", .plain "l" "files-with-matches",
    .plain "L" "files-without-match", .valued "" "group-separator", .valued "" "include",
    .plain "i" "ignore-case", .plain "y" "", .plain "" "no-ignore-case", .plain "T" "initial-tab",
    .valued "" "label", .plain "n" "line-number", .plain "x" "line-regexp",
    .valued "m" "max-count", .plain "h" "no-filename", .plain "" "no-group-separator",
    .plain "s" "no-messages", .plain "Z" "null", .plain "z" "null-data",
    .plain "o" "only-matching", .plain "q" "quiet", .plain "" "silent", .plain "r" "recursive",
    .plain "R" "dereference-recursive", .valued "e" "regexp", .plain "v" "invert-match",
    .plain "a" "text", .plain "I" "", .plain "U" "binary", .plain "u" "unix-byte-offsets",
    .plain "V" "version", .plain "H" "with-filename", .plain "w" "word-regexp",
    .plain "" "help"]

namespace Grep

def usage {α : Type} : Act α := do
  Act.complain "Usage: grep [OPTION]... PATTERNS [FILE]..."
  Act.complain "Try 'grep --help' for more information."
  Call.abort 2

structure Written where
  text : Octets
  file : Option Octets := none
  line : Nat := 1

def ofLines (s : Octets) : List Written := (Text.splitAt '\n' s).map ({ text := · })

def ofFile (file s : Octets) : List Written :=
  (Octets.lines s).1.mapIdx fun i text => { text, file := some file, line := i + 1 }

def kind (c : Call) (g : Given) : Act String := do
  let kinds := ["basic-regexp", "extended-regexp", "fixed-strings", "fixed-regexp", "perl-regexp"]
  let mut chosen := g.options.filterMap fun (n, _) => if kinds.contains n then some n else none
  for word in g.values "matcher" do
    match [("grep", "basic-regexp"), ("egrep", "extended-regexp"), ("fgrep", "fixed-strings"),
        ("perl", "perl-regexp")].lookup (String.ofList word) with
    | some n => chosen := chosen ++ [n]
    | none => c.fail 2 ("invalid matcher ".toList ++ word)
  match (chosen.map fun n => if n = "fixed-regexp" then "fixed-strings" else n).eraseDups with
  | [] => return "basic-regexp"
  | [n] => return n
  | _ => c.failText 2 "conflicting matchers specified"

def compile (c : Call) (kind : String) (w : Written) : Act Regex := do
  if kind = "fixed-strings" then
    return w.text.foldr (fun ch r => Regex.join (.char ch) r) .empty
  if Regex.hasBareClass (w.text.length + 1) w.text then
    c.failText 2 "character class syntax is [[:space:]], not [:space:]"
  match Regex.parse { extended := kind ≠ "basic-regexp", lenient := true } w.text with
  | .ok parsed =>
    for mark in parsed.misplaced do
      c.complainText ("warning: " ++ mark ++ " at start of expression")
    return parsed.regex
  | .error e =>
    let place := match w.file with
      | some file => file ++ ":".toList ++ Octets.ofNat w.line ++ ": ".toList
      | none => []
    c.fail 2 (place ++ .ofString e.text)

def contextLength (c : Call) (s : Option Octets) : Act (Option Nat) := do
  match s with
  | none => return none
  | some s =>
    match Octets.nat? s with
    | some n => return some n
    | none => c.fail 2 (s ++ ": invalid context length argument".toList)

def plainLength? (g : Given) : Option Octets :=
  let digits := g.options.filterMap fun (n, _) =>
    match n.toList with
    | [d] => if d.isDigit then some d else none
    | _ => none
  if digits.isEmpty then none else some digits

def globs (ps : List Octets) : List Pattern := ps.map Pattern.ofName

def ofGiven (c : Call) (g : Given) : Act Grep := do
  let context ← contextLength c ((g.value? "context").or (plainLength? g))
  let before ← contextLength c (g.value? "before-context")
  let after ← contextLength c (g.value? "after-context")
  let most ← match g.value? "max-count" with
    | none => pure none
    | some s =>
      match Octets.int? s with
      | some n => pure (if n < 0 then none else some n.toNat)
      | none => c.failText 2 "invalid max count"
  let treatment ← match (g.value? "binary-files").map String.ofList with
    | none =>
      pure (if g.has "text" then .asText else if g.has "I" then .skipped else .asBinary)
    | some "text" => pure .asText
    | some "binary" => pure .asBinary
    | some "without-match" => pure .skipped
    | some _ => c.failText 2 "unknown binary-files type"
  let directories ← match g.value? "directories" with
    | none => pure ""
    | some s =>
      match ["read", "recurse", "skip"].filter fun n => s.isPrefixOf n.toList with
      | [n] => pure n
      | _ =>
        c.complain ("invalid argument ".toList ++ Quote.always s ++ " for '--directories'".toList)
        Act.complain "Valid arguments are:\n  - 'read'\n  - 'recurse'\n  - 'skip'"
        usage
  match (g.value? "devices").map String.ofList with
  | none | some "read" | some "skip" => pure ()
  | some _ => c.failText 2 "unknown devices method"
  if g.has "unix-byte-offsets" then
    c.complainText "warning: --unix-byte-offsets (-u) is obsolete"
  let mut excluded := g.values "exclude"
  for file in g.values "exclude-from" do
    match ← c.read file with
    | .ok text => excluded := excluded ++ (Octets.lines text).1
    | .error e => c.fail 2 (file ++ ": ".toList ++ .ofString e.text)
  let isDiscarded := match (← get).opened? 1 with
    | some (_, { channel := .device .null, .. }) => true
    | _ => false
  let color := (g.value? "color").or (g.value? "colour")
  return {
    folds := (g.lastOf? ["ignore-case", "y", "no-ignore-case"]).any (· ≠ "no-ignore-case")
    cover :=
      if g.has "line-regexp" then .line else if g.has "word-regexp" then .words else .part
    inverts := g.has "invert-match"
    shows :=
      if g.has "quiet" || g.has "silent" || isDiscarded then .nothing
      else
        match g.lastOf? ["files-with-matches", "files-without-match"] with
        | some "files-with-matches" => .names
        | some _ => .otherNames
        | none =>
          if g.has "count" then .count else if g.has "only-matching" then .parts else .lines
    mark := if g.has "null-data" then '\x00' else '\n'
    hasNumbers := g.has "line-number"
    hasOffsets := g.has "byte-offset"
    hasTabs := g.has "initial-tab"
    hasNulls := g.has "null"
    hasColors := color = some "always".toList
    before := before.or context
    after := after.or context
    separator :=
      match g.lastOf? ["group-separator", "no-group-separator"] with
      | some "group-separator" => g.value? "group-separator"
      | some _ => none
      | none => some "--".toList
    most
    treatment
    label := (g.value? "label").getD "(standard input)".toList
    isSilent := g.has "no-messages"
    recurses := g.has "recursive" || g.has "dereference-recursive" || directories = "recurse"
    followsLinks :=
      g.lastOf? ["recursive", "dereference-recursive"] = some "dereference-recursive"
    skipsDirectories := directories = "skip"
    leavesEarly := g.has "quiet" || g.has "silent"
    excluded := globs excluded
    included := globs (g.values "include")
    excludedDirectories := globs (g.values "exclude-dir") }

def patternsOf (c : Call) (g : Given) : Act (List Written × List Octets) := do
  let mut found := []
  let mut isGiven := false
  for (name, value) in g.options do
    match name, value with
    | "regexp", some s =>
      isGiven := true
      found := found ++ ofLines s
    | "file", some file =>
      isGiven := true
      match ← c.read file with
      | .ok text => found := found ++ ofFile file text
      | .error e => c.fail 2 (file ++ ": ".toList ++ .ofString e.text)
    | _, _ => pure ()
  if isGiven then return (found, g.operands)
  else
    match g.operands with
    | p :: files => return (ofLines p, files)
    | [] => usage

end Grep

def grepWith (c : Call) (args : List Octets) : Act Nat := do
  match Options.read grepFlags true (args.length + 1) args with
  | .error e =>
    c.complain e.text
    Grep.usage
  | .ok given =>
    if given.has "help" || given.has "version" then return 0
    let kind ← Grep.kind c given
    let g ← Grep.ofGiven c given
    let (written, files) ← Grep.patternsOf c given
    if g.most = some 0 then return 1
    let mut patterns := []
    for w in written do patterns := (← Grep.compile c kind w) :: patterns
    let g := { g with patterns := patterns.reverse }
    let names := (given.lastOf? ["with-filename", "no-filename"]).map (· == "with-filename")
    let mut r : Grep.Result := {}
    if files.isEmpty then
      if g.recurses then
        let place := (← get).storage.place
        r ← g.searchDirectory c (names.getD true) 4096 [] none place r
      else r ← g.searchInput c (names.getD false) r
    else
      for file in files do r ← g.searchNamed c names (1 < files.length) file r
    return if r.hasError then 2 else if r.hasMatch then 0 else 1

def grep (c : Call) : Act Nat := grepWith c c.args

end DeployForge.Shell.Utility
