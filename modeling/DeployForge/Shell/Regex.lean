import DeployForge.Shell.CharSet

/-! Regular expressions. A search finds the leftmost match, and of those the longest. -/

namespace DeployForge.Shell

inductive Anchor where
  | lineStart
  | lineEnd
  | textStart
  | textEnd
  | wordStart
  | wordEnd
  | wordEdge
  | noEdge
  deriving DecidableEq, Repr

inductive Regex where
  | empty
  | char (c : Char)
  | any
  | oneOf (members : CharSet)
  | anchor (a : Anchor)
  | back (n : Nat)
  | group (n : Nat) (r : Regex)
  | seq (a b : Regex)
  | alt (a b : Regex)
  | repeated (r : Regex) (least : Nat) (most : Option Nat)
  deriving DecidableEq, Repr

namespace Regex

structure Subject where
  text : Array Char
  folds : Bool := false
  hasLines : Bool := false

/-- A place in a text, with where the groups before it begin and end, the latest first. -/
structure Place where
  position : Nat
  groups : List (Nat × Nat × Nat) := []
  deriving DecidableEq, Repr

def hasBack : Regex → Bool
  | back _ => true
  | group _ r | repeated r _ _ => hasBack r
  | seq a b | alt a b => hasBack a || hasBack b
  | _ => false

def sparing (c : Char) : Regex → Regex
  | any => oneOf ⟨true, [(c, c)]⟩
  | oneOf members =>
    oneOf (if members.negated then { members with ranges := (c, c) :: members.ranges } else members)
  | group n r => group n (sparing c r)
  | seq a b => seq (sparing c a) (sparing c b)
  | alt a b => alt (sparing c a) (sparing c b)
  | repeated r least most => repeated (sparing c r) least most
  | r => r

namespace Subject

def length (s : Subject) : Nat := s.text.size

def isWordAt (s : Subject) (n : Nat) : Bool := (s.text[n]?.map isNameChar).getD false

def isWordBefore (s : Subject) (n : Nat) : Bool := 0 < n && s.isWordAt (n - 1)

def holds (s : Subject) (a : Anchor) (n : Nat) : Bool :=
  let before := s.isWordBefore n
  let behind := s.isWordAt n
  match a with
  | .lineStart => n = 0 || s.hasLines && s.text[n - 1]? = some '\n'
  | .lineEnd => n = s.length || s.hasLines && s.text[n]? = some '\n'
  | .textStart => n = 0
  | .textEnd => n = s.length
  | .wordStart => !before && behind
  | .wordEnd => before && !behind
  | .wordEdge => before != behind
  | .noEdge => before == behind

def same (s : Subject) (a b : Char) : Bool :=
  a = b || s.folds && a.toLower = b.toLower

def isIn (s : Subject) (set : CharSet) (c : Char) : Bool :=
  if s.folds then
    set.negated != { set with negated := false }.ranges.any fun (low, high) =>
      [c, c.toLower, c.toUpper].any fun d => low ≤ d && d ≤ high
  else set.contains c

def test? (s : Subject) : Regex → Option (Char → Bool)
  | .char c => some (s.same c)
  | .any => some fun _ => true
  | .oneOf members => some (s.isIn members)
  | _ => none

def isAgain (s : Subject) (start stop n : Nat) : Bool :=
  n + (stop - start) ≤ s.length && (List.range (stop - start)).all fun i =>
    match s.text[start + i]?, s.text[n + i]? with
    | some a, some b => s.same a b
    | _, _ => false

def runLength (s : Subject) (test : Char → Bool) : Nat → Nat → Nat
  | 0, _ => 0
  | fuel + 1, n =>
    match s.text[n]? with
    | some c => if test c then s.runLength test fuel (n + 1) + 1 else 0
    | none => 0

end Subject

/-- Of places at the same position the first is kept. -/
def distinct (size : Nat) (places : List Place) : List Place :=
  match places with
  | [] | [_] => places
  | _ =>
    (places.foldl (fun ((out : List Place), (seen : Array Bool)) p =>
      if (seen[p.position]?).getD true then (out, seen)
      else (p :: out, seen.setIfInBounds p.position true))
      ([], Array.replicate (size + 1) false)).1.reverse

/-- Places that repeated steps lead to, those of more steps first. A position is visited once. -/
def closure (step : Place → List Place) :
    Nat → List Place × Array Bool → Place → List Place × Array Bool
  | 0, acc, _ => acc
  | fuel + 1, acc, p =>
    let (out, seen) := (step p).foldl (fun acc q =>
      if (acc.2[q.position]?).getD true then acc
      else closure step fuel (acc.1, acc.2.setIfInBounds q.position true) q) acc
    (p :: out, seen)

def bounded (tidy : List Place → List Place) (step : Place → List Place) :
    Nat → Nat → Place → List Place
  | 0, _, p => [p]
  | most + 1, least, p =>
    let next := (step p).filter fun q => 0 < least || p.position < q.position
    tidy (next.flatMap (bounded tidy step most (least - 1)) ++ if least = 0 then [p] else [])

def iterated (size : Nat) (tidy : List Place → List Place) (step : Place → List Place)
    (least : Nat) (most : Option Nat) (p : Place) : List Place :=
  match most with
  | some most => bounded tidy step most least p
  | none =>
    let far (q : Place) : List Place :=
      let seen := (Array.replicate (size + 1) false).setIfInBounds q.position true
      (closure step (size + 2) ([], seen) q).1.reverse
    if least = 0 then far p else tidy ((bounded tidy step least least p).flatMap far)

/-- Where a match that begins at a place can end, the preferred end first. -/
def ends (s : Subject) (tidy : List Place → List Place) : Regex → Place → List Place
  | empty, p => [p]
  | anchor a, p => if s.holds a p.position then [p] else []
  | back n, p =>
    match p.groups.lookup n with
    | some (start, stop) =>
      if s.isAgain start stop p.position then [{ p with position := p.position + (stop - start) }]
      else []
    | none => []
  | group n r, p =>
    (ends s tidy r p).map fun q => { q with groups := (n, p.position, q.position) :: q.groups }
  | seq a b, p =>
    match ends s tidy a p with
    | [] => []
    | [q] => ends s tidy b q
    | qs => tidy (qs.flatMap (ends s tidy b))
  | alt a b, p => tidy (ends s tidy a p ++ ends s tidy b p)
  | repeated r least most, p =>
    match s.test? r with
    | some test =>
      let n := s.runLength test ((most.getD s.length) + 1) p.position
      let n := match most with
        | some most => min n most
        | none => n
      if n < least then []
      else (List.range (n - least + 1)).map fun i => { p with position := p.position + (n - i) }
    | none => iterated s.length tidy (ends s tidy r) least most p
  | char c, p => step (s.same c) p
  | any, p => step (fun _ => true) p
  | oneOf members, p => step (s.isIn members) p
where
  step (test : Char → Bool) (p : Place) : List Place :=
    match s.text[p.position]? with
    | some c => if test c then [{ p with position := p.position + 1 }] else []
    | none => []

def endsAt (s : Subject) (r : Regex) (n : Nat) : List Place :=
  ends s (if hasBack r then List.eraseDups else distinct s.length) r ⟨n, []⟩

structure Match where
  start : Nat
  stop : Nat
  groups : List (Nat × Nat × Nat) := []
  deriving DecidableEq, Repr

def longest? (test : Nat → Bool) (places : List Place) : Option Place :=
  places.foldl (fun best p =>
    if !test p.position then best
    else
      match best with
      | some b => if b.position < p.position then some p else best
      | none => some p) none

def findWith (test : Nat → Nat → Bool) (s : Subject) (r : Regex) : Nat → Nat → Option Match
  | 0, _ => none
  | fuel + 1, n =>
    match longest? (test n) (endsAt s r n) with
    | some p => some ⟨n, p.position, p.groups⟩
    | none => findWith test s r fuel (n + 1)

def first? : Regex → Option Regex
  | char c => some (char c)
  | oneOf members => some (oneOf members)
  | group _ r => first? r
  | seq a _ => first? a
  | repeated r (_ + 1) _ => first? r
  | _ => none

def find? (s : Subject) (r : Regex) (n : Nat) : Option Match :=
  match (first? r).bind s.test? with
  | some test =>
    let rec go : Nat → Nat → Option Match
      | 0, _ => none
      | fuel + 1, n =>
        let n := n + s.runLength (fun c => !test c) (s.length + 1) n
        if s.length ≤ n then none
        else
          match longest? (fun _ => true) (endsAt s r n) with
          | some p => some ⟨n, p.position, p.groups⟩
          | none => go fuel (n + 1)
    go (s.length + 1) n
  | none => findWith (fun _ _ => true) s r (s.length + 1 - n) n

def Match.part (m : Match) (s : Subject) (group : Nat) : Octets :=
  let (start, stop) := if group = 0 then (m.start, m.stop) else (m.groups.lookup group).getD (0, 0)
  (s.text.extract start stop).toList

/-- Matches one after another. An empty one may not stand right behind another match. -/
def findAll (s : Subject) (r : Regex) : Nat → Nat → Option Nat → List Match
  | 0, _, _ => []
  | fuel + 1, n, last =>
    match find? s r n with
    | none => []
    | some m =>
      if m.start = m.stop then
        let rest := if s.length ≤ m.stop then [] else findAll s r fuel (m.stop + 1) none
        let again := if last = some m.start then
            if s.length ≤ m.stop then [] else findAll s r fuel (m.stop + 1) none
          else m :: rest
        again
      else m :: (if s.length < m.stop then [] else findAll s r fuel m.stop (some m.stop))

def all (s : Subject) (r : Regex) : List Match := findAll s r (s.length + 2) 0 none

end Regex

end DeployForge.Shell
