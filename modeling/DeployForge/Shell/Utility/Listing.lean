import DeployForge.Shell.Escape
import DeployForge.Shell.Pattern
import DeployForge.Shell.Utility.Comparison
import DeployForge.Shell.Utility.Copying

namespace DeployForge.Shell.Utility

structure Item where
  name : Octets
  path : Octets
  location : Location
  entry : Entry

namespace Item

def isDirectory (i : Item) : Bool := i.entry = .directory

def size (i : Item) : Nat :=
  match i.entry with
  | .file content => content.size
  | .link target => target.length
  | .directory => 4096
  | .device _ => 0
  | .program => 4096

def blocks (i : Item) : Nat :=
  match i.entry with
  | .directory => 4
  | .file content => (content.size + 4095) / 4096 * 4
  | .program => 4
  | _ => 0

def inode (i : Item) : Nat :=
  i.location.foldl (fun n name => n * 31 + name.length + 7) 2 % 1000000

end Item

def human (n : Nat) : Octets :=
  let rec go : List Char → Nat → Octets
    | [], _ => .ofNat n
    | letter :: rest, unit =>
      if n < unit * 1024 then
        let tenths := (n * 10 + unit - 1) / unit
        if tenths < 100 then Octets.ofNat (tenths / 10) ++ '.' :: Octets.ofNat (tenths % 10) ++ [letter]
        else
          let whole := (n + unit - 1) / unit
          if whole = 1024 then
            match rest with
            | next :: _ => "1.0".toList ++ [next]
            | [] => Octets.ofNat whole ++ [letter]
          else Octets.ofNat whole ++ [letter]
      else go rest (unit * 1024)
  if n < 1024 then .ofNat n else go "KMGTPEZY".toList 1024

structure Show where
  marks : Bool := false
  slashes : Bool := false
  quotes : Bool := false
  escapes : Bool := false
  hides : Bool := false
  shell : Bool := false
  blocks : Bool := false
  human : Bool := false
  owner : Bool := true
  group : Bool := true
  numeric : Bool := false

namespace Show

def nameText (w : Show) (s : Octets) : Octets :=
  let visible (c : Char) : Octets :=
    if c = '\\' then "\\\\".toList else if isShown c then [c] else Quote.hidden c
  if w.quotes then
    '"' :: s.flatMap (fun c => if c = '"' then "\\\"".toList else visible c) ++ ['"']
  else if w.shell then Quote.name s
  else if w.escapes then s.flatMap fun c => if c = ' ' then "\\ ".toList else visible c
  else if w.hides then s.map fun c => if isShown c then c else '?'
  else s

def mark (w : Show) (m : Machine) (i : Item) : Octets :=
  if !w.marks && !w.slashes then []
  else
    match i.entry with
    | .directory => ['/']
    | .link _ => if w.marks then ['@'] else []
    | .program => if w.marks then ['*'] else []
    | .file _ => if w.marks && m.storage.mode i.location &&& 73 ≠ 0 then ['*'] else []
    | .device _ => []

def sizeText (w : Show) (n : Nat) : Octets := if w.human then Utility.human n else .ofNat n

def blockText (w : Show) (n : Nat) : Octets :=
  if w.human then Utility.human (n * 1024) else .ofNat n

def short (w : Show) (m : Machine) (blockWidth : Nat) (i : Item) : Octets :=
  let blocks := if w.blocks then Octets.padLeft ' ' blockWidth (w.blockText i.blocks) ++ [' '] else []
  blocks ++ w.nameText i.name ++ w.mark m i

def linkCount (m : Machine) (i : Item) : Nat :=
  if i.isDirectory then
    2 + (m.storage.names i.location).countP fun name =>
      m.storage.entry? (i.location ++ [name]) = some .directory
  else 1

def longLines (w : Show) (m : Machine) (items : List Item) : List Octets :=
  let widest (f : Item → Octets) : Nat := (items.map fun i => (f i).length).foldl max 0
  let links (i : Item) : Octets := .ofNat (linkCount m i)
  let size (i : Item) : Octets := match i.entry with
    | .device _ => "1, 3".toList
    | _ => w.sizeText i.size
  let linkWidth := widest links
  let sizeWidth := widest size
  let blockWidth := widest fun i => w.blockText i.blocks
  let who : Octets := if w.numeric then ['0'] else "root".toList
  items.map fun i =>
    let blocks := if w.blocks then Octets.padLeft ' ' blockWidth (w.blockText i.blocks) ++ [' '] else []
    let date := Calendar.shown (.ofSeconds Calendar.present) "%b %e %H:%M".toList
    let target : Octets := match i.entry with
      | .link target =>
        " -> ".toList ++ w.nameText target ++
          if w.marks then
            match m.storage.status true i.path with
            | .ok (l, e) => w.mark m { i with location := l, entry := e }
            | .error _ => []
          else []
      | _ => []
    let mark := match i.entry with
      | .link _ => []
      | _ => w.mark m i
    blocks ++ Mode.kindLetter i.entry :: Mode.letters (m.storage.mode i.location) ++ [' ']
      ++ Octets.padLeft ' ' linkWidth (links i) ++ [' ']
      ++ (if w.owner then who ++ [' '] else []) ++ (if w.group then who ++ [' '] else [])
      ++ Octets.padLeft ' ' sizeWidth (size i) ++ ' ' :: date ++ ' ' :: w.nameText i.name ++ mark
      ++ target

end Show

def indent : Nat → Nat → Nat → Octets
  | 0, _, _ => []
  | fuel + 1, from_, to_ =>
    if to_ ≤ from_ then []
    else if to_ / 8 > (from_ + 1) / 8 then '\t' :: indent fuel ((from_ / 8 + 1) * 8) to_
    else ' ' :: indent fuel (from_ + 1) to_

def columns (across : Bool) (lineWidth : Nat) (names : List Octets) : List Octets :=
  let n := names.length
  let rowsFor (k : Nat) : Nat := (n + k - 1) / k
  let columnOf (k i : Nat) : Nat := if across then i % k else i / rowsFor k
  let widths (k : Nat) : List Nat :=
    let init := List.replicate k 3
    names.zipIdx.foldl (fun ws (s, i) =>
      let j := columnOf k i
      let size := s.length + if j + 1 = k then 0 else 2
      ws.modify j (max size)) init
  let most := max 1 (min n (lineWidth / 3))
  let fits (k : Nat) : Bool := k ≤ 1 || sumOf (widths k) < lineWidth
  let k := ((List.range most).reverse.map (· + 1)).find? fits |>.getD 1
  let ws := widths k
  let starts := ws.foldl (fun (acc : List Nat) w => acc ++ [acc.getLastD 0 + w]) [0]
  let row (cells : List Octets) : Octets :=
    (cells.zipIdx.foldl (fun ((out : Octets), (at_ : Nat)) (s, j) =>
      let start := starts[j]?.getD 0
      let gap := if j = 0 then [] else indent lineWidth at_ start
      (out ++ gap ++ s, start + s.length)) ([], 0)).1
  let r := rowsFor k
  (List.range r).map fun i =>
    row ((List.range k).filterMap fun j => names[if across then i * k + j else j * r + i]?)

def commas (lineWidth : Nat) (names : List Octets) : Octets :=
  let last := names.length
  (names.zipIdx.foldl (fun ((out : Octets), (at_ : Nat)) (s, i) =>
    let s := if i + 1 = last then s else s ++ [',']
    if i = 0 then (s, s.length)
    else if at_ + 1 + s.length + (if i + 1 = last then 0 else 1) ≤ lineWidth then
      (out ++ ' ' :: s, at_ + 1 + s.length)
    else (out ++ '\n' :: s, s.length)) ([], 0)).1

def itemOrder (m : Machine) (sort : String) (a b : Item) : Ordering :=
  let byName := Comparing.orderOctets a.name b.name
  match sort with
  | "size" => (compare b.size a.size).then byName
  | "time" => (compare (m.storage.time b.location) (m.storage.time a.location)).then byName
  | "extension" =>
    let ending (s : Octets) : Octets :=
      if s.contains '.' then (s.reverse.takeWhile (· ≠ '.')).reverse else []
    (Comparing.orderOctets (ending a.name) (ending b.name)).then byName
  | "version" => (({ kind := 'V' } : Comparing).order a.name b.name).then byName
  | "width" => (compare a.name.length b.name.length).then byName
  | _ => byName

def lsFlags : List Flag := [
  .plain "a" "all", .plain "A" "almost-all", .plain "" "author", .plain "b" "escape",
  .valued "" "block-size", .plain "B" "ignore-backups", .plain "c" "", .plain "C" "",
  .optional "" "color", .plain "d" "directory", .plain "D" "dired", .plain "f" "",
  .plain "F" "", .optional "" "classify", .plain "" "file-type", .valued "" "format",
  .plain "" "full-time", .plain "g" "", .plain "" "group-directories-first", .plain "G" "no-group",
  .plain "h" "human-readable", .plain "" "si", .plain "H" "dereference-command-line",
  .plain "" "dereference-command-line-symlink-to-dir", .valued "" "hide",
  .optional "" "hyperlink", .valued "" "indicator-style", .plain "i" "inode",
  .valued "I" "ignore", .plain "k" "kibibytes", .plain "l" "", .plain "L" "dereference",
  .plain "m" "", .plain "n" "numeric-uid-gid", .plain "N" "literal", .plain "o" "",
  .plain "p" "", .plain "q" "hide-control-chars", .plain "" "show-control-chars",
  .plain "Q" "quote-name", .valued "" "quoting-style", .plain "r" "reverse",
  .plain "R" "recursive", .plain "s" "size", .plain "S" "", .valued "" "sort",
  .valued "" "time", .valued "" "time-style", .plain "t" "", .valued "T" "tabsize", .plain "u" "",
  .plain "U" "", .plain "v" "", .valued "w" "width", .plain "x" "", .plain "X" "",
  .plain "Z" "context", .plain "1" "", .plain "" "zero"]

structure Ls where
  show_ : Show
  sort : String
  reverse : Bool
  format : String
  width : Nat
  all : Bool
  almostAll : Bool
  directoriesFirst : Bool
  ignored : List Octets
  follows : Bool
  recursive : Bool

namespace Ls

def sorted (w : Ls) (m : Machine) (items : List Item) : List Item :=
  let order (a b : Item) : Ordering :=
    let o := itemOrder m w.sort a b
    if w.reverse then o.swap else o
  let items := if w.sort = "none" then items else items.mergeSort fun a b => order a b ≠ .gt
  if w.directoriesFirst then items.filter (·.isDirectory) ++ items.filter (!·.isDirectory) else items

def printItems (w : Ls) (m : Machine) (items : List Item) : Octets :=
  let widest := (items.map fun i => (w.show_.blockText i.blocks).length).foldl max 0
  let short (i : Item) : Octets := w.show_.short m widest i
  match w.format with
  | "long" => Octets.unlines (w.show_.longLines m items)
  | "commas" => if items.isEmpty then [] else commas w.width (items.map short) ++ ['\n']
  | "columns" => Octets.unlines (columns false w.width (items.map short))
  | "across" => Octets.unlines (columns true w.width (items.map short))
  | "zero" => items.flatMap fun i => short i ++ ['\x00']
  | _ => Octets.unlines (items.map short)

def isWanted (w : Ls) (name : Octets) : Bool :=
  (w.all || w.almostAll || name.head? ≠ some '.')
    && !(w.ignored.any fun p => Pattern.accepts (.ofName p) name)

def itemsOf (w : Ls) (m : Machine) (p : Octets) (l : Location) : List Item :=
  let names := (m.storage.names l).map Octets.ofString
  let item (name : Octets) : Option Item :=
    let path := Octets.within p name
    let seen := if w.follows then (m.seen? path).or (m.own? path) else m.own? path
    seen.map fun (at_, e) => { name, path, location := at_, entry := e }
  let dots : List Item := if w.all then [
      { name := ['.'], path := p, location := l, entry := .directory },
      { name := ['.', '.'], path := p, location := l.dropLast, entry := .directory }] else []
  dots ++ (names.filter w.isWanted).filterMap item

def directoryText (w : Ls) (m : Machine) : Nat → Bool → Octets → Location → List Octets
  | 0, _, _, _ => []
  | fuel + 1, isTitled, p, l =>
    let items := w.sorted m (w.itemsOf m p l)
    let title := if isTitled then w.show_.nameText p ++ ":\n".toList else []
    let total := if w.format = "long" || w.show_.blocks then
        "total ".toList ++ w.show_.blockText (sumOf (items.map (·.blocks))) ++ ['\n'] else []
    let here := title ++ total ++ w.printItems m items
    here :: if w.recursive then
        (items.filter fun i => i.isDirectory && i.name ≠ ['.'] && i.name ≠ ['.', '.']).flatMap
          fun i => w.directoryText m fuel true i.path i.location
      else []

end Ls

def lsChoices : List (String × List (List String)) := [
  ("color", [["always", "yes", "force"], ["never", "no", "none"], ["auto", "tty", "if-tty"]]),
  ("format", [["verbose", "long"], ["commas"], ["horizontal", "across"], ["vertical"],
    ["single-column"]]),
  ("hyperlink", [["always", "yes", "force"], ["never", "no", "none"], ["auto", "tty", "if-tty"]]),
  ("indicator-style", [["none"], ["slash"], ["file-type"], ["classify"]]),
  ("quoting-style", [["literal"], ["shell"], ["shell-always"], ["shell-escape"],
    ["shell-escape-always"], ["c"], ["c-maybe"], ["escape"], ["locale"], ["clocale"]]),
  ("sort", [["none"], ["time"], ["size"], ["extension"], ["version"], ["width"]]),
  ("time", [["atime", "access", "use"], ["ctime", "status"], ["mtime", "modification"],
    ["birth", "creation"]])]

def lsOf (c : Call) (g : Given) : Act Ls := do
  let words ← lsChoices.filterMapM fun (name, choices) => do
    match g.value? name with
    | none => return none
    | some s => return some (name, ← c.chosen ("--" ++ name) choices s 2)
  let word (name : String) : String := (words.lookup name).getD ""
  let sort := match g.lastOf? ["S", "t", "U", "v", "X", "f", "sort"] with
    | some "S" => "size"
    | some "t" => "time"
    | some "U" | some "f" => "none"
    | some "v" => "version"
    | some "X" => "extension"
    | some _ => word "sort"
    | none => "name"
  let format := match g.lastOf? ["l", "g", "o", "numeric-uid-gid", "C", "x", "m", "1", "format",
      "zero", "full-time"] with
    | some "l" | some "g" | some "o" | some "numeric-uid-gid" | some "full-time" => "long"
    | some "C" => "columns"
    | some "x" => "across"
    | some "m" => "commas"
    | some "zero" => "zero"
    | some "format" =>
      match word "format" with
      | "verbose" => "long"
      | "commas" => "commas"
      | "horizontal" => "across"
      | "vertical" => "columns"
      | _ => "single"
    | _ => "single"
  let isLong := ["l", "g", "o", "numeric-uid-gid"].any g.has
  let format := if isLong && (g.lastOf? ["C", "x", "m", "l", "g", "o", "1"] = some "1") then "long"
    else format
  let style := word "quoting-style"
  let indicator := word "indicator-style"
  let m ← get
  let width := ((g.value? "width").or (m.value? "COLUMNS".toList)).bind Octets.nat?
  return {
    show_ := {
      marks := g.has "F" || g.has "classify" || indicator = "classify"
      slashes := g.has "p" || g.has "file-type" || indicator = "slash" || indicator = "file-type"
      quotes := g.has "quote-name" || style = "c"
      escapes := g.has "escape" || style = "escape"
      hides := g.has "hide-control-chars"
      shell := style = "shell" || style = "shell-escape"
      blocks := g.has "size"
      human := g.has "human-readable"
      owner := !g.has "g"
      group := !g.has "o" && !g.has "no-group"
      numeric := g.has "numeric-uid-gid" }
    sort, format
    reverse := g.has "reverse"
    width := match width with
      | some 0 => 1000000
      | some n => n
      | none => 80
    all := g.has "all" || g.has "f"
    almostAll := g.has "almost-all"
    directoriesFirst := g.has "group-directories-first"
    ignored := g.values "ignore" ++ g.values "hide"
      ++ if g.has "ignore-backups" then ["*~".toList] else []
    follows := g.has "dereference"
    recursive := g.has "recursive" }

def ls (c : Call) : Act Nat := do
  let g ← c.options lsFlags 2
  let w ← lsOf c g
  let isShort := w.format ≠ "long" && !w.show_.marks
  let m ← get
  let names := if g.operands.isEmpty then [['.']] else g.operands
  let mut status := 0
  let mut files : List Item := []
  let mut directories : List Item := []
  for p in names do
    let follows := w.follows || g.has "dereference-command-line"
    let own := m.storage.status follows p
    let seen := if g.has "directory" then own
      else
        match m.storage.status true p, own with
        | .ok (l, .directory), .ok _ => if isShort || follows then .ok (l, .directory) else own
        | _, own => own
    match seen with
    | .error e =>
      c.cannot "cannot access" p e
      status := 2
    | .ok (l, e) =>
      let item : Item := { name := p, path := p, location := l, entry := e }
      if e = .directory && !g.has "directory" then directories := item :: directories
      else files := item :: files
  let shownFiles := w.printItems m (w.sorted m files.reverse)
  let isTitled := 1 < names.length || w.recursive
  let texts := (w.sorted m directories.reverse).flatMap fun i =>
    w.directoryText m 256 isTitled i.path i.location
  let all := (if files.isEmpty then [] else [shownFiles]) ++ texts
  Act.put (Octets.join ['\n'] all)
  return status

def statField (m : Machine) (p : Octets) (i : Item) (kind : Char) : Octets ⊕ Nat :=
  let time := Calendar.present + (m.storage.time i.location).fdiv 1000000
  let moment := Calendar.Moment.ofSeconds time
  let fullTime := Calendar.shown moment "%Y-%m-%d %H:%M:%S.%N %z".toList
  let bits := m.storage.mode i.location
  let kindBits := match i.entry with
    | .directory => 16384
    | .link _ => 40960
    | .device _ => 8192
    | _ => 32768
  match kind with
  | 'n' => .inl p
  | 'N' =>
    match i.entry with
    | .link target => .inl (Quote.always p ++ " -> ".toList ++ Quote.always target)
    | _ => .inl (Quote.always p)
  | 's' => .inr i.size
  | 'F' => .inl (describeEntry m i.location i.entry)
  | 'a' => .inr (Octets.nat (Nat.toDigits 8 bits))
  | 'A' => .inl (Mode.kindLetter i.entry :: Mode.letters bits)
  | 'f' => .inl (Nat.toDigits 16 (kindBits + bits))
  | 'h' => .inr (Show.linkCount m i)
  | 'u' | 'g' | 't' | 'T' | 'r' | 'R' | 'W' => .inr 0
  | 'U' | 'G' => .inl "root".toList
  | 'b' => .inr (i.blocks * 2)
  | 'B' => .inr 512
  | 'o' => .inr 4096
  | 'i' => .inr i.inode
  | 'd' | 'D' => .inr 254
  | 'm' => .inl ['/']
  | 'C' => .inl "?".toList
  | 'x' | 'y' | 'z' | 'w' => .inl fullTime
  | 'X' | 'Y' | 'Z' => .inl (.ofInt time)
  | _ => .inl ['?']

def statText (escapes : Bool) (field : Char → Octets ⊕ Nat) : Nat → Octets → Octets
  | 0, _ | _, [] => []
  | fuel + 1, '%' :: rest =>
    let marks := rest.takeWhile ("'-+ #0".toList.contains ·)
    let after := rest.drop marks.length
    let width := after.takeWhile Char.isDigit
    let after := after.drop width.length
    let (precision, after) : Option Nat × Octets := match after with
      | '.' :: more =>
        let ds := more.takeWhile Char.isDigit
        (some (Octets.nat ds), more.drop ds.length)
      | _ => (none, after)
    match after with
    | [] => ['%']
    | '%' :: more => '%' :: statText escapes field fuel more
    | kind :: more =>
      let f : Format := marks.foldl Format.withMark { width := Octets.nat width, precision }
      let shown := match field kind with
        | .inl s => if kind = 'f' then { f with precision := none }.pad [] s true else f.text s
        | .inr n =>
          let n := Octets.ofNat n
          let n := if kind = 'a' && f.alternate then '0' :: n else n
          { f with precision := none }.pad [] (Octets.padLeft '0' (precision.getD 0) n) true
      shown ++ statText escapes field fuel more
  | fuel + 1, '\\' :: c :: rest =>
    if escapes then
      match c with
      | 'x' =>
        let ds := (rest.take 2).takeWhile isHexDigit
        octet (Octets.foldDigits 16 ds) :: statText escapes field fuel (rest.drop ds.length)
      | _ =>
        if isOctal c then
          let ds := ((c :: rest).take 3).takeWhile isOctal
          Escape.octal ds :: statText escapes field fuel ((c :: rest).drop ds.length)
        else
          match Escape.letter? c with
          | some d => d :: statText escapes field fuel rest
          | none => c :: statText escapes field fuel rest
    else '\\' :: statText escapes field fuel (c :: rest)
  | fuel + 1, c :: rest => c :: statText escapes field fuel rest

def statWhole : String :=
  "  File: %N\n  Size: %-10s\tBlocks: %-10b IO Block: %-6o %F\n" ++
  "Device: 254,0\tInode: %-11i Links: %h\n" ++
  "Access: (%04a/%10.10A)  Uid: (%5u/%8U)   Gid: (%5g/%8G)\n" ++
  "Access: %x\nModify: %y\nChange: %z\n Birth: %w\n"

def stat (c : Call) : Act Nat := do
  let g ← c.options [.plain "L" "dereference", .plain "f" "file-system", .valued "c" "format",
    .valued "" "printf", .plain "t" "terse", .valued "" "cached"]
  if g.operands.isEmpty then c.missingOperand
  let m ← get
  c.each g.operands fun p => do
    match m.storage.status (g.has "dereference") p with
    | .error e =>
      c.cannot (if g.has "file-system" then "cannot read file system information for"
        else "cannot statx") p e
      return false
    | .ok (l, e) =>
      let item : Item := { name := p, path := p, location := l, entry := e }
      let field := statField m p item
      let text (escapes : Bool) (s : Octets) : Octets := statText escapes field (s.length + 1) s
      match g.lastOf? ["format", "printf"] with
      | some "format" => Act.putLine (text false ((g.value? "format").getD []))
      | some _ => Act.put (text true ((g.value? "printf").getD []))
      | none =>
        if g.has "terse" then
          Act.putLine (text false "%n %s %b %f %u %g %D %i %h %t %T %X %Y %Z %W %o".toList)
        else
          let whole := statWhole.replace "%N" (match e with
            | .link _ => "%N"
            | _ => "%n")
          Act.put (text false whole.toList)
      return true

end DeployForge.Shell.Utility
