import DeployForge.Shell.Utility.Comparison

namespace DeployForge.Shell.Utility

inductive Strictness where
  | usual
  | always
  | never
  deriving DecidableEq, Repr

def strictness (g : Given) : Strictness :=
  match g.lastOf? ["check-order", "nocheck-order"] with
  | some "check-order" => .always
  | some _ => .never
  | none => .usual

structure Sight where
  unpaired : Bool := false
  warned1 : Bool := false
  warned2 : Bool := false

abbrev Merge := StateT Sight Act

def checkOrder (c : Call) (strict : Strictness) (isFirst : Bool) (isWrong : Bool)
    (text : Octets) : Merge Unit := do
  let s ← get
  let isWarned := if isFirst then s.warned1 else s.warned2
  if strict ≠ .never && (strict = .always || s.unpaired) && !isWarned && isWrong then
    if strict = .always then c.fail 1 text
    c.complain text
    set (if isFirst then { s with warned1 := true } else { s with warned2 := true })

def checkEnd (c : Call) : Merge Unit := do
  let s ← get
  if s.warned1 || s.warned2 then c.failText 1 "input is not in sorted order"

structure Columns where
  only1 : Bool
  only2 : Bool
  both : Bool
  separator : Octets
  mark : Char

def withEarlier (lines : List Octets) : List (Option Octets × Octets) :=
  (none :: lines.map some).zip lines

def commLines (c : Call) (strict : Strictness) (w : Columns) :
    Nat → List (Option Octets × Octets) → List (Option Octets × Octets) → Nat × Nat × Nat →
    Merge (Nat × Nat × Nat)
  | 0, _, _, n => return n
  | _, [], [], n => return n
  | fuel + 1, xs, ys, (n1, n2, n3) => do
    let inOrder (isFirst : Bool) (a b : Octets) : Merge Unit :=
      checkOrder c strict isFirst (Comparing.orderOctets a b = .gt)
        (if isFirst then "file 1 is not in sorted order" else "file 2 is not in sorted order").toList
    let step (isFirst : Bool) : List (Option Octets × Octets) →
        Merge (List (Option Octets × Octets))
      | (_, a) :: b :: rest => do
        inOrder isFirst a b.2
        return b :: rest
      | [(some a, b)] => do
        inOrder isFirst a b
        return []
      | _ => return []
    let text (lines : List (Option Octets × Octets)) : Octets := (lines.head?.map (·.2)).getD []
    let order := match xs, ys with
      | (_, a) :: _, (_, b) :: _ => Comparing.orderOctets a b
      | _ :: _, [] => .lt
      | [], _ => .gt
    match order with
    | .eq =>
      if w.both then
        Act.put ((if w.only1 then w.separator else []) ++ (if w.only2 then w.separator else [])
          ++ text xs ++ [w.mark])
      let xs ← step true xs
      let ys ← step false ys
      commLines c strict w fuel xs ys (n1, n2, n3 + 1)
    | .lt =>
      modify fun s => { s with unpaired := true }
      if w.only1 then Act.put (text xs ++ [w.mark])
      let xs ← step true xs
      commLines c strict w fuel xs ys (n1 + 1, n2, n3)
    | .gt =>
      modify fun s => { s with unpaired := true }
      if w.only2 then Act.put ((if w.only1 then w.separator else []) ++ text ys ++ [w.mark])
      let ys ← step false ys
      commLines c strict w fuel xs ys (n1, n2 + 1, n3)

def twoFiles (c : Call) (g : Given) : Act (Octets × Octets) := do
  match g.operands with
  | [] => c.missingOperand
  | [a] => c.missingAfter a
  | [a, b] => return (a, b)
  | _ :: _ :: extra :: _ => c.extraOperand extra

def comm (c : Call) : Act Nat := do
  let g ← c.options [.plain "1" "", .plain "2" "", .plain "3" "", .plain "" "check-order",
    .plain "" "nocheck-order", .valued "" "output-delimiter", .plain "" "total",
    .plain "z" "zero-terminated"]
  let (a, b) ← twoFiles c g
  let mark := if g.has "zero-terminated" then '\x00' else '\n'
  let xs := ((← c.readOrFail 1 a).records mark).1
  let ys := ((← c.readOrFail 1 b).records mark).1
  let separator := (g.value? "output-delimiter").getD ['\t']
  let w : Columns := {
    only1 := !g.has "1", only2 := !g.has "2", both := !g.has "3", mark
    separator := if separator.isEmpty then ['\x00'] else separator }
  let work : Merge Unit := do
    let (n1, n2, n3) ← commLines c (strictness g) w (xs.length + ys.length + 1) (withEarlier xs)
      (withEarlier ys) (0, 0, 0)
    if g.has "total" then
      Act.put (Octets.join w.separator [.ofNat n1, .ofNat n2, .ofNat n3, "total".toList] ++ [mark])
    checkEnd c
  discard (work.run {})
  return 0

inductive Output where
  | shared
  | field (isFirst : Bool) (n : Nat)
  deriving DecidableEq, Repr

structure Joining where
  /-- `none` for blanks, and no character at all for whole lines. -/
  separator : Option (Option Char) := none
  field1 : Nat := 0
  field2 : Nat := 0
  folds : Bool := false
  filler : Option Octets := none
  output : Option (List Output) := none
  /-- How many fields each file has, if all lines are to be as long as the first ones. -/
  counts : Option (Nat × Nat) := none
  unpaired1 : Bool := false
  unpaired2 : Bool := false
  paired : Bool := true
  mark : Char := '\n'
  strict : Strictness := .usual

structure Row where
  text : Octets
  fields : List Octets
  number : Nat

namespace Joining

def blankFields : Nat → Octets → List Octets
  | 0, _ => []
  | fuel + 1, s =>
    let isGap (c : Char) : Bool := isBlank c || c = '\n'
    let s := s.dropWhile isGap
    if s.isEmpty then []
    else
      let field := s.takeWhile fun c => !isGap c
      field :: blankFields fuel (s.drop field.length)

def row (j : Joining) (text : Octets) (number : Nat) : Row :=
  let fields := match j.separator with
    | none => blankFields (text.length + 1) text
    | some none => [text]
    | some (some c) => Text.splitAt c text
  ⟨text, fields, number⟩

def key (j : Joining) (n : Nat) (r : Row) : Octets :=
  let s := (r.fields[n]?).getD []
  if j.folds then Octets.toLower s else s

def field (j : Joining) (fields : List Octets) (n : Nat) : Octets :=
  match fields[n]? with
  | some (c :: s) => c :: s
  | _ => j.filler.getD []

def others (j : Joining) (n : Nat) (count : Option Nat) (fields : List Octets) : List Octets :=
  let count := count.getD fields.length
  ((List.range count).filter (· ≠ n)).map (j.field fields)

def text (j : Joining) (a b : Option Row) : Octets :=
  let xs := (a.map (·.fields)).getD []
  let ys := (b.map (·.fields)).getD []
  let shared := if a.isSome then j.field xs j.field1 else j.field ys j.field2
  let fields := match j.output with
    | some output =>
      output.map fun
        | .shared => shared
        | .field true n => j.field xs n
        | .field false n => j.field ys n
    | none =>
      let n1 := (j.counts.map (·.1))
      let n2 := (j.counts.map (·.2))
      shared :: j.others j.field1 n1 xs ++ j.others j.field2 n2 ys
  let separator := match j.separator with
    | some (some c) => [c]
    | some none => ['\n']
    | none => [' ']
  Octets.join separator fields ++ [j.mark]

def order (j : Joining) (a b : Row) : Ordering :=
  Comparing.orderOctets (j.key j.field1 a) (j.key j.field2 b)

def check (c : Call) (j : Joining) (name : Octets) (isFirst : Bool) : List Row → Merge Unit
  | a :: b :: _ =>
    let n := if isFirst then j.field1 else j.field2
    checkOrder c j.strict isFirst (Comparing.orderOctets (j.key n a) (j.key n b) = .gt)
      (name ++ ':' :: Octets.ofNat b.number ++ ": is not sorted: ".toList ++ b.text)
  | _ => return ()

def takeSame (check : List Row → Merge Unit) (test : Row → Bool) :
    Nat → List Row → List Row → Merge (List Row × List Row)
  | 0, done, rest => return (done.reverse, rest)
  | fuel + 1, done, rest => do
    match rest with
    | [] => return (done.reverse, [])
    | a :: more =>
      if test a then
        check rest
        takeSame check test fuel (a :: done) more
      else return (done.reverse, rest)

def tail (check : List Row → Merge Unit) (prints : Bool) (line : Row → Octets)
    (isWarned : Sight → Bool) : List Row → Merge Unit
  | [] => return ()
  | a :: rest => do
    if prints then Act.put (line a)
    if isWarned (← get) && !prints then return ()
    check (a :: rest)
    tail check prints line isWarned rest

def merge (c : Call) (j : Joining) (name1 name2 : Octets) :
    Nat → List Row → List Row → Merge Unit
  | 0, _, _ => return ()
  | fuel + 1, xs, ys => do
    let check1 := check c j name1 true
    let check2 := check c j name2 false
    match xs, ys with
    | a :: restX, b :: restY =>
      match j.order a b with
      | .lt =>
        if j.unpaired1 then Act.put (j.text (some a) none)
        check1 xs
        modify fun s => { s with unpaired := true }
        merge c j name1 name2 fuel restX ys
      | .gt =>
        if j.unpaired2 then Act.put (j.text none (some b))
        check2 ys
        modify fun s => { s with unpaired := true }
        merge c j name1 name2 fuel xs restY
      | .eq =>
        let (same1, restX) ← takeSame check1 (fun r => j.order r b = .eq) (xs.length + 1) [] xs
        let (same2, restY) ← takeSame check2 (fun r => j.order a r = .eq) (ys.length + 1) [] ys
        if j.paired then
          for x in same1 do
            for y in same2 do Act.put (j.text (some x) (some y))
        merge c j name1 name2 fuel restX restY
    | [], [] => return ()
    | xs, [] =>
      tail check1 j.unpaired1 (fun r => j.text (some r) none) (·.warned1) xs
    | [], ys =>
      tail check2 j.unpaired2 (fun r => j.text none (some r)) (·.warned2) ys

end Joining

def readOutput (c : Call) (s : Octets) : Act Output := do
  match s with
  | ['0'] => return .shared
  | '1' :: '.' :: n | '2' :: '.' :: n =>
    match Octets.nat? n with
    | some (k + 1) => return .field (s.head? = some '1') k
    | _ => c.fail 1 ("invalid field number: ".toList ++ Quote.text n)
  | '1' :: _ | '2' :: _ | '0' :: _ =>
    c.fail 1 ("invalid field specifier: ".toList ++ Quote.text s)
  | _ => c.fail 1 ("invalid file number in field spec: ".toList ++ Quote.text s)

def joinArgs : List Octets → List Octets
  | [] => []
  | arg :: rest =>
    match rest with
    | value :: words =>
      let count := words.length - 2
      if arg = ['-', 'o'] && words.all (·.head? ≠ some '-') then
        arg :: Octets.join [','] (value :: words.take count) :: words.drop count
      else arg :: joinArgs rest
    | [] => [arg]

def joinFlags : List Flag := [
  .valued "a" "", .valued "e" "", .plain "i" "ignore-case", .valued "j" "", .valued "o" "",
  .valued "t" "", .valued "v" "", .valued "1" "", .valued "2" "", .plain "" "check-order",
  .plain "" "nocheck-order", .plain "" "header", .plain "z" "zero-terminated"]

def join (c : Call) : Act Nat := do
  let g ← c.optionsOf joinFlags 1 true (joinArgs c.args)
  let number (s : Octets) : Act Nat :=
    match Octets.nat? s with
    | some (n + 1) => return n
    | _ => c.fail 1 ("invalid field number: ".toList ++ Quote.text s)
  let fileNumber (s : Octets) : Act Bool :=
    if s = ['1'] then return true else if s = ['2'] then return false
    else c.fail 1 ("invalid field number: ".toList ++ Quote.text s)
  let all ← (g.values "a").mapM fileNumber
  let only ← (g.values "v").mapM fileNumber
  let shared ← (g.value? "j").mapM number
  let field1 ← (g.value? "1").mapM number
  let field2 ← (g.value? "2").mapM number
  let separator ← match g.value? "t" with
    | none => pure none
    | some [] => pure (some none)
    | some ['\\', '0'] => pure (some (some '\x00'))
    | some [t] => pure (some (some t))
    | some s => c.fail 1 ("multi-character tab ".toList ++ Quote.text s)
  let isAuto := g.value? "o" = some "auto".toList
  let output ← if isAuto then pure none
    else
      match g.values "o" with
      | [] => pure none
      | lists =>
        let words := lists.flatMap fun s =>
          Text.splitAt ',' (s.map fun ch => if isBlank ch then ',' else ch)
        (words.mapM (readOutput c)).map some
  let (name1, name2) ← twoFiles c g
  if name1 = ['-'] && name2 = ['-'] then c.failText 1 "both files cannot be standard input"
  let mark := if g.has "zero-terminated" then '\x00' else '\n'
  let j : Joining := {
    separator, output, mark
    field1 := (field1.or shared).getD 0
    field2 := (field2.or shared).getD 0
    folds := g.has "ignore-case"
    filler := g.value? "e"
    unpaired1 := (all ++ only).contains true
    unpaired2 := (all ++ only).contains false
    paired := only.isEmpty
    strict := strictness g }
  let rows (text : Octets) : List Row :=
    ((text.records mark).1.zipIdx).map fun (s, i) => j.row s (i + 1)
  let xs := rows (← c.readOrFail 1 name1)
  let ys := rows (← c.readOrFail 1 name2)
  let count (rs : List Row) : Nat := ((rs.head?).map (·.fields.length)).getD 0
  let j := if isAuto then { j with counts := some (count xs, count ys) } else j
  let isHeaded := g.has "header"
  if isHeaded && (!xs.isEmpty || !ys.isEmpty) then Act.put (j.text xs.head? ys.head?)
  let skip (rs : List Row) : List Row := if isHeaded then rs.tail else rs
  let work : Merge Unit := do
    j.merge c name1 name2 (xs.length + ys.length + 2) (skip xs) (skip ys)
    checkEnd c
  discard (work.run {})
  return 0

end DeployForge.Shell.Utility
