import DeployForge.Shell.Utility.Comparison

namespace DeployForge.Shell.Utility

/-- A place in a line: a field and a character of it, each counted from one. A character of zero
is the end of the field. -/
structure KeyPlace where
  field : Nat
  char : Nat
  deriving DecidableEq, Repr

structure Key where
  start : KeyPlace := ⟨1, 1⟩
  stop : Option KeyPlace := none
  comparing : Comparing := {}

structure Sorting where
  keys : List Key := []
  separator : Option Char := none
  default : Comparing := {}
  isStable : Bool := false
  isUnique : Bool := false

namespace Sorting

def afterFields (separator : Option Char) : Nat → Octets → Octets
  | 0, s => s
  | n + 1, s =>
    match separator with
    | some c => afterFields separator n ((s.dropWhile (· ≠ c)).drop 1)
    | none => afterFields separator n ((s.dropWhile isBlank).dropWhile fun c => !isBlank c)

def lengthTo (separator : Option Char) (skipsBlanks : Bool) (p : KeyPlace) (s : Octets) : Nat :=
  if p.char = 0 then
    let rest := afterFields separator p.field s
    match separator with
    | some _ =>
      let before := afterFields separator (p.field - 1) s
      s.length - before.length + (before.takeWhile (some · ≠ separator)).length
    | none => s.length - rest.length
  else
    let field := afterFields separator (p.field - 1) s
    let field := if skipsBlanks then field.dropWhile isBlank else field
    min s.length (s.length - field.length + p.char)

def part (s : Sorting) (k : Key) (line : Octets) : Octets :=
  let rest := afterFields s.separator (k.start.field - 1) line
  let rest := if k.comparing.ignoresBlanks then rest.dropWhile isBlank else rest
  let rest := rest.drop (k.start.char - 1)
  match k.stop with
  | none => rest
  | some p =>
    let stop := lengthTo s.separator k.comparing.ignoresBlanksAtEnd p line
    rest.take (stop - (line.length - rest.length))

def orderKeys (s : Sorting) (a b : Octets) : Ordering :=
  if s.keys.isEmpty then
    let d := s.default
    let cut (line : Octets) : Octets := if d.ignoresBlanks then line.dropWhile isBlank else line
    d.order (cut a) (cut b)
  else
    s.keys.foldl (fun (o : Ordering) k =>
      o.then (k.comparing.order (s.part k a) (s.part k b))) Ordering.eq

/-- Lines that the keys do not tell apart are compared as a whole. -/
def order (s : Sorting) (a b : Octets) : Ordering :=
  let first := s.orderKeys a b
  if s.isStable || s.isUnique || s.keys.isEmpty && s.default = {} then first
  else
    let whole := Comparing.orderOctets a b
    first.then (if s.default.reverse then whole.swap else whole)

def atMost (s : Sorting) (a b : Octets) : Bool := s.order a b ≠ .gt

def dedupe (s : Sorting) : List Octets → List Octets
  | [] => []
  | line :: rest =>
    let rec go (last : Octets) : List Octets → List Octets
      | [] => []
      | line :: rest =>
        if s.orderKeys last line = .eq then go last rest else line :: go line rest
    line :: go line rest

def sort (s : Sorting) (lines : List Octets) : List Octets :=
  let sorted := lines.mergeSort s.atMost
  if s.isUnique then s.dedupe sorted else sorted

def merge (s : Sorting) (lists : List (List Octets)) : List Octets :=
  let mergeTwo (xs ys : List Octets) : List Octets := xs.merge ys s.atMost
  let merged := lists.foldl mergeTwo []
  if s.isUnique then s.dedupe merged else merged

end Sorting

def readPlace (s : Octets) : Option (KeyPlace × Bool × Octets) :=
  let field := s.takeWhile Char.isDigit
  let rest := s.drop field.length
  if field.isEmpty then none
  else
    match rest with
    | '.' :: rest =>
      let char := rest.takeWhile Char.isDigit
      if char.isEmpty then none
      else some (⟨Octets.nat field, Octets.nat char⟩, true, rest.drop char.length)
    | rest => some (⟨Octets.nat field, 0⟩, false, rest)

def letters? (k : Comparing) (isStart : Bool) : Octets → Option Comparing
  | [] => some k
  | 'b' :: rest =>
    letters? (if isStart then { k with ignoresBlanks := true }
      else { k with ignoresBlanksAtEnd := true }) isStart rest
  | c :: rest => (k.withLetter? c).bind fun k => letters? k isStart rest

def readKey (c : Call) (s : Octets) : Act Key := do
  let bad {α : Type} (text : String) (s : Octets) : Act α :=
    c.fail 2 (text.toList ++ ": invalid field specification ".toList ++ Quote.text s)
  match readPlace s with
  | none => c.fail 2 ("invalid number at field start: invalid count at start of ".toList ++ Quote.text s)
  | some (start, hasChar, rest) =>
    if start.field = 0 then bad "field number is zero" s
    if hasChar && start.char = 0 then bad "character offset is zero" s
    let start := if hasChar then start else { start with char := 1 }
    let first := rest.takeWhile (· ≠ ',')
    match letters? {} true first with
    | none => bad "stray character in field spec" s
    | some comparing =>
      match rest.drop first.length with
      | ',' :: rest =>
        match readPlace rest with
        | none => c.fail 2 ("invalid number after ',': invalid count at start of ".toList
            ++ Quote.text rest)
        | some (stop, _, letters) =>
          if stop.field = 0 then bad "field number is zero" s
          match letters? comparing false letters with
          | none => bad "stray character in field spec" s
          | some comparing => return { start, stop := some stop, comparing }
      | _ => return { start, comparing }

def sortFlags : List Flag := [
  .plain "b" "ignore-leading-blanks", .plain "d" "dictionary-order", .plain "f" "ignore-case",
  .plain "g" "general-numeric-sort", .plain "i" "ignore-nonprinting", .plain "M" "month-sort",
  .plain "h" "human-numeric-sort", .plain "n" "numeric-sort", .plain "R" "random-sort",
  .plain "r" "reverse", .plain "V" "version-sort", .valued "" "sort", .valued "" "batch-size",
  .optional "c" "check", .plain "C" "", .valued "" "compress-program", .plain "" "debug",
  .valued "" "files0-from", .valued "k" "key", .plain "m" "merge", .valued "o" "output",
  .plain "s" "stable", .valued "S" "buffer-size", .valued "t" "field-separator",
  .valued "T" "temporary-directory", .valued "" "parallel", .plain "u" "unique",
  .plain "z" "zero-terminated"]

def sortKinds : List (String × Char) := [
  ("ignore-leading-blanks", 'b'), ("dictionary-order", 'd'), ("ignore-case", 'f'),
  ("general-numeric-sort", 'g'), ("ignore-nonprinting", 'i'), ("month-sort", 'M'),
  ("human-numeric-sort", 'h'), ("numeric-sort", 'n'), ("reverse", 'r'), ("version-sort", 'V')]

def sortWords : List (String × Char) := [
  ("general-numeric", 'g'), ("human-numeric", 'h'), ("month", 'M'), ("numeric", 'n'),
  ("version", 'V')]

def defaultOf (g : Given) : Comparing :=
  g.options.foldl (fun k (name, value) =>
    let letter? := if name = "sort" then sortWords.lookup (String.ofList (value.getD []))
      else sortKinds.lookup name
    (letter?.bind k.withLetter?).getD k) {}

def sortArgs (args : List Octets) : List Octets :=
  args.map fun arg =>
    match arg with
    | '-' :: c :: cs =>
      if c ≠ '-' && (c :: cs).all ("bdfgiMhnrVcCmsuz".toList.contains ·) && (c :: cs).contains 'c' then
        '-' :: (c :: cs).filter (· ≠ 'c') ++ ['c']
      else arg
    | _ => arg

def separatorOf (c : Call) (g : Given) : Act (Option Char) := do
  match g.value? "field-separator" with
  | none => return none
  | some [] => c.failText 2 "empty tab"
  | some ['\\', '0'] => return some '\x00'
  | some [t] => return some t
  | some s => c.fail 2 ("multi-character tab ".toList ++ Quote.text s)

def disorder (s : Sorting) : List Octets → Nat → Option (Nat × Octets)
  | a :: b :: rest, n =>
    let isBad := match s.order a b with
      | .gt => true
      | .eq => s.isUnique
      | .lt => false
    if isBad then some (n + 1, b) else disorder s (b :: rest) (n + 1)
  | _, _ => none

def sort (c : Call) : Act Nat := do
  let g ← c.optionsOf sortFlags 2 true (sortArgs c.args)
  let separator ← separatorOf c g
  if g.has "check" || g.has "C" then
    match g.operands with
    | _ :: extra :: _ =>
      let letter := if g.lastOf? ["check", "C"] = some "C" then "C" else "c"
      c.fail 2 ("extra operand ".toList ++ Quote.always extra ++ " not allowed with -".toList
        ++ letter.toList)
    | _ => pure ()
  let default := defaultOf g
  let keys ← (g.values "key").mapM (readKey c)
  let keys := keys.map fun k =>
    if k.comparing = {} then { k with comparing := default } else k
  let s : Sorting :=
    { keys, separator, default, isStable := g.has "stable", isUnique := g.has "unique" }
  let mark := if g.has "zero-terminated" then '\x00' else '\n'
  let names := if g.operands.isEmpty then [['-']] else g.operands
  let mut lines : List (List Octets) := []
  for name in names do
    match ← c.read name with
    | .ok text => lines := (text.records mark).1 :: lines
    | .error e =>
      if e = .isDirectory then
        c.fail 2 ("read failed: ".toList ++ Quote.ifNeeded name ++ ": Is a directory".toList)
      else c.fail 2 ("cannot read: ".toList ++ Quote.ifNeeded name ++ ": ".toList ++ .ofString e.text)
  let all := lines.reverse.flatten
  let isQuiet := g.has "C" || (g.value? "check" = some "quiet".toList)
    || (g.value? "check" = some "silent".toList)
  if g.has "check" || g.has "C" then
    match disorder s all 1 with
    | none => return 0
    | some (n, line) =>
      if !isQuiet then
        c.complain (names.headD [] ++ ':' :: Octets.ofNat n ++ ": disorder: ".toList ++ line)
      return 1
  let ordered := if g.has "merge" then s.merge lines.reverse else s.sort all
  let sorted := ordered.flatMap fun line => line ++ [mark]
  match g.value? "output" with
  | none => Act.put sorted
  | some name =>
    match ← Call.store name sorted with
    | .ok () => pure ()
    | .error e =>
      c.fail 2 ("open failed: ".toList ++ Quote.ifNeeded name ++ ": ".toList ++ .ofString e.text)
  return 0

def comparedPart (g : Given) (fields chars : Nat) (width : Option Nat) (line : Octets) : Octets :=
  let rec skip : Nat → Octets → Octets
    | 0, s => s
    | n + 1, s => skip n ((s.dropWhile isBlank).dropWhile fun c => !isBlank c)
  let s := (skip fields line).drop chars
  let s := match width with
    | some n => s.take n
    | none => s
  if g.has "ignore-case" then s.map Char.toLower else s

/-- Lines next to each other that count as the same. -/
def groups (key : Octets → Octets) (lines : List Octets) : List (List Octets) :=
  (lines.splitBy fun a b => key a = key b)

def amountOf (c : Call) (g : Given) (name text : String) : Act (Option Nat) := do
  match g.value? name with
  | none => return none
  | some s =>
    match Octets.nat? s with
    | some n => return some n
    | none => c.fail 1 (s ++ ": ".toList ++ text.toList)

def uniqArgs (args : List Octets) : List Octets :=
  args.flatMap fun arg =>
    match arg with
    | '-' :: d :: ds => if (d :: ds).all Char.isDigit then [['-', 'f'], d :: ds] else [arg]
    | '+' :: d :: ds => if (d :: ds).all Char.isDigit then [['-', 's'], d :: ds] else [arg]
    | _ => [arg]

def uniq (c : Call) : Act Nat := do
  let g ← c.optionsOf [.plain "c" "count", .plain "d" "repeated", .plain "D" "",
    .optional "" "all-repeated", .valued "f" "skip-fields", .optional "" "group",
    .plain "i" "ignore-case", .valued "s" "skip-chars", .plain "u" "unique",
    .plain "z" "zero-terminated", .valued "w" "check-chars"] 1 true (uniqArgs c.args)
  let fields ← amountOf c g "skip-fields" "invalid number of fields to skip"
  let chars ← amountOf c g "skip-chars" "invalid number of bytes to skip"
  let width ← amountOf c g "check-chars" "invalid number of bytes to compare"
  let grouping ← match g.value? "group" with
    | none => pure "separate"
    | some s => c.chosen "--group" [["prepend"], ["append"], ["separate"], ["both"]] s
  let repeating ← match g.value? "all-repeated" with
    | none => pure "none"
    | some s => c.chosen "--all-repeated" [["none"], ["prepend"], ["separate"]] s
  let mark := if g.has "zero-terminated" then '\x00' else '\n'
  match g.operands with
  | _ :: _ :: extra :: _ => c.extraOperand extra
  | _ => pure ()
  let showsAll := g.has "D" || g.has "all-repeated"
  if g.has "count" && showsAll then
    c.misuseText 1 "printing all duplicated lines and repeat counts is meaningless"
  if g.has "group" && (g.has "count" || g.has "repeated" || showsAll || g.has "unique") then
    c.misuseText 1 "--group is mutually exclusive with -c/-d/-D/-u"
  let text ← c.readOrFail 1 (g.operands.headD ['-'])
  let gs := groups (comparedPart g (fields.getD 0) (chars.getD 0) width) (text.records mark).1
  let line (s : Octets) : Octets := s ++ [mark]
  let shown : List Octets :=
    if g.has "group" then
      let before := grouping = "prepend" || grouping = "both"
      let after := grouping = "append" || grouping = "both"
      let between := grouping = "separate"
      gs.zipIdx.flatMap fun (ls, i) =>
        (if before || between && 0 < i then [[mark]] else []) ++ ls.map line
          ++ (if after && (grouping ≠ "both" || i + 1 = gs.length) then [[mark]] else [])
    else if showsAll then
      let kept := gs.filter fun ls => 1 < ls.length && !g.has "unique"
      kept.zipIdx.flatMap fun (ls, i) =>
        (if repeating = "prepend" || repeating = "separate" && 0 < i then [[mark]] else [])
          ++ ls.map line
    else
      gs.filterMap fun ls =>
        let n := ls.length
        if g.has "repeated" && n = 1 || g.has "unique" && 1 < n then none
        else
          let count := if g.has "count" then Octets.padLeft ' ' 7 (.ofNat n) ++ [' '] else []
          some (count ++ line (ls.headD []))
  match g.operands with
  | [_, output] =>
    if output = ['-'] then Act.put shown.flatten
    else
      match ← Call.store output shown.flatten with
      | .ok () => pure ()
      | .error e => c.fail 1 (Quote.ifNeeded output ++ ": ".toList ++ .ofString e.text)
  | _ => Act.put shown.flatten
  return 0

end DeployForge.Shell.Utility
