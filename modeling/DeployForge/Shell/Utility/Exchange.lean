import DeployForge.Shell.CharSet
import DeployForge.Shell.Escape
import DeployForge.Shell.Utility.Input

namespace DeployForge.Shell.Utility

inductive Portion where
  | char (c : Char)
  | range (low high : Char)
  | members (name : Octets) (cs : List Char)
  | repeated (c : Char) (count : Nat)
  deriving DecidableEq, Repr

abbrev Refusal := Octets

namespace Portion

def unescape : Nat → Octets → List (Char × Bool)
  | 0, _ | _, [] => []
  | fuel + 1, '\\' :: rest =>
    let ds := (rest.take 3).takeWhile isOctal
    let ds := if Octets.foldDigits 8 ds > 255 then ds.take 2 else ds
    if !ds.isEmpty then (octet (Octets.foldDigits 8 ds), true) :: unescape fuel (rest.drop ds.length)
    else
      match rest with
      | c :: rest =>
        let d := match c with
          | 'a' | 'b' | 'f' | 'n' | 'r' | 't' | 'v' => (Escape.letter? c).getD c
          | _ => c
        (d, true) :: unescape fuel rest
      | [] => [('\\', true)]
  | fuel + 1, c :: rest => (c, false) :: unescape fuel rest

def shown (c : Char) : Octets :=
  if isShown c then [c] else '\\' :: Octets.inBase 8 3 c.toNat

def upTo (mark : Char) : List (Char × Bool) → Option (Octets × List (Char × Bool))
  | (c, _) :: (d, q) :: rest =>
    if c = mark && d = ']' && !q then some ([], rest)
    else (upTo mark ((d, q) :: rest)).map fun (s, rest) => (c :: s, rest)
  | _ => none

def bracket? (s : List (Char × Bool)) :
    Except Refusal (Option (Portion × List (Char × Bool))) :=
  match s with
  | (':', false) :: rest =>
    match upTo ':' rest with
    | none => .ok none
    | some (name, rest) =>
      match CharSet.ofClass? name with
      | some ranges => .ok (some (.members name (CharSet.members ⟨false, ranges⟩), rest))
      | none =>
        if rest.isEmpty && name.contains '*' then .ok none
        else .error ("invalid character class ".toList ++ Quote.text name)
  | ('=', false) :: rest =>
    match upTo '=' rest with
    | none => .ok none
    | some ([c], rest) => .ok (some (.char c, rest))
    | some (s, _) =>
      .error (s ++ ": equivalence class operand must be a single character".toList)
  | (c, _) :: ('*', false) :: rest =>
    let digits := rest.takeWhile fun (d, q) => d.isDigit && !q
    match rest.drop digits.length with
    | (']', false) :: rest =>
      let ds := digits.map (·.1)
      let count := if ds.head? = some '0' && ds.all isOctal then Octets.foldDigits 8 ds
        else Octets.nat ds
      .ok (some (.repeated c count, rest))
    | _ =>
      let name := (rest.map (·.1)).takeWhile (· ≠ ']')
      if rest.any (· = (']', false)) && !name.isEmpty then
        .error ("invalid repeat count ".toList ++ Quote.text name
          ++ " in [c*n] construct".toList)
      else .ok none
  | _ => .ok none

def readWithin : Nat → List (Char × Bool) → Except Refusal (List Portion)
  | 0, _ | _, [] => .ok []
  | fuel + 1, (c, q) :: rest => do
    match ← if c = '[' && !q then bracket? rest else .ok none with
    | some (p, rest) => return p :: (← readWithin fuel rest)
    | none =>
      match rest with
      | ('-', false) :: (high, _) :: after =>
        if high < c then
          .error ("range-endpoints of '".toList ++ shown c ++ '-' :: shown high
            ++ "' are in reverse collating sequence order".toList)
        else return .range c high :: (← readWithin fuel after)
      | _ => return .char c :: (← readWithin fuel rest)

def read (s : Octets) : Except Refusal (List Portion) :=
  let cs := unescape (s.length + 1) s
  readWithin (cs.length + 1) cs

def expand : Portion → List Char
  | char c => [c]
  | range low high => (List.range (high.toNat + 1 - low.toNat)).map fun i => octet (low.toNat + i)
  | members _ cs => cs
  | repeated c n => List.replicate n c

def isClass : Portion → Bool
  | members _ _ => true
  | _ => false

def isCase (p : Portion) : Bool :=
  match p with
  | members name _ => name = "lower".toList || name = "upper".toList
  | _ => false

/-- The characters of a list, a repetition without a count being as long as it can. -/
def expandTo (size : Nat) (ps : List Portion) : List Char :=
  let others := sumOf (ps.map fun p => p.expand.length)
  ps.flatMap fun p =>
    match p with
    | repeated c 0 => List.replicate (size - others) c
    | p => p.expand

end Portion

def squeezed (set : List Char) : Option Char → Octets → Octets → Octets
  | _, done, [] => done.reverse
  | last, done, c :: rest =>
    if last = some c && set.contains c then squeezed set last done rest
    else squeezed set (some c) (c :: done) rest

def exchange (from_ to_ : List Char) : Array Char :=
  (from_.zip to_).foldl (fun table (a, b) => table.setIfInBounds a.toNat b)
    ((List.range 256).map octet).toArray

def trSets (c : Call) (s : Octets) : Act (List Portion) := do
  if Escape.hasLooseEnd s then
    c.complainText "warning: an unescaped backslash at end of string is not portable"
  match Portion.read s with
  | .ok ps => return ps
  | .error e => c.fail 1 e

def tr (c : Call) : Act Nat := do
  let g ← c.options [.plain "c" "complement", .plain "C" "complement", .plain "d" "delete",
    .plain "s" "squeeze-repeats", .plain "t" "truncate-set1"] 1 false
  let deletes := g.has "delete"
  let squeezes := g.has "squeeze-repeats"
  let exchanges := 1 < g.operands.length && !deletes
  let least := if deletes = squeezes then 2 else 1
  let most := if deletes && !squeezes then 1 else 2
  match g.operands with
  | [] => c.missingOperand
  | operands =>
    let last := operands.getLastD []
    if operands.length < least then
      c.complain ("missing operand after ".toList ++ Quote.text last)
      Act.complain (if squeezes
        then "Two strings must be given when both deleting and squeezing repeats."
        else "Two strings must be given when translating.")
      c.hint 1
    if most < operands.length then
      c.complain ("extra operand ".toList ++ Quote.text ((operands[most]?).getD []))
      if operands.length = 2 then
        Act.complain "Only one string may be given when deleting without squeezing repeats."
      c.hint 1
    let first ← trSets c (operands.headD [])
    let second ← trSets c ((operands[1]?).getD [])
    let isOpen (p : Portion) : Bool := match p with
      | .repeated _ 0 => true
      | _ => false
    if first.any isOpen then
      c.failText 1 "the [c*] repeat construct may not appear in string1"
    let complement := g.has "complement"
    let all := (List.range 256).map octet
    let plain := first.flatMap Portion.expand
    let from_ := if complement then all.filter (!plain.contains ·) else plain
    let to_ := Portion.expandTo from_.length second
    if exchanges then
      if 1 < second.countP isOpen then
        c.failText 1 "only one [c*] repeat construct may appear in string2"
      if second.any fun p => p.isClass && !p.isCase then
        c.failText 1 ("when translating, the only character classes that may appear in\n"
          ++ "string2 are 'upper' and 'lower'")
      let misaligned := !complement && second.zipIdx.any fun (p, i) =>
        p.isCase && !((first[i]?).map Portion.isCase).getD false
      if misaligned then c.failText 1 "misaligned [:upper:] and/or [:lower:] construct"
      if to_.length < from_.length && (second.getLast?.map Portion.isClass).getD false
          && !g.has "truncate-set1" then
        c.failText 1 ("when translating with string1 longer than string2,\n"
          ++ "the latter string must not end with a character class")
      if to_.isEmpty && !g.has "truncate-set1" then
        c.failText 1 "when not truncating set1, string2 must be non-empty"
      if complement && first.any Portion.isClass && 1 < to_.eraseDups.length then
        c.failText 1 ("when translating with complemented character classes,\n"
          ++ "string2 must map all characters in the domain to one")
    else if squeezes && !deletes then pure ()
    else if second.any isOpen && !squeezes then
      c.failText 1 "the [c*] construct may appear in string2 only when translating"
    let text ← match ← Act.readAll 0 with
      | .ok text => pure text
      | .error e => c.fail 1 ("read error: ".toList ++ .ofString e.text)
    if deletes then
      let kept := text.filter (!from_.contains ·)
      Act.put (if squeezes then squeezed to_ none [] kept else kept)
    else if exchanges then
      let to_ := if g.has "truncate-set1" then to_
        else to_ ++ List.replicate (from_.length - to_.length) (to_.getLastD ' ')
      let table := exchange from_ to_
      let changed := text.map fun ch => table[ch.toNat]?.getD ch
      let kept := if second.isEmpty then from_ else to_
      Act.put (if squeezes then squeezed kept none [] changed else changed)
    else Act.put (squeezed from_ none [] text)
    return 0

end DeployForge.Shell.Utility
