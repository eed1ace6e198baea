import DeployForge.Shell.Channel
import DeployForge.Shell.Pattern

/-! Fields: the words of a command after their parameters have been put in. -/

namespace DeployForge.Shell

/-- A piece of a text that is being expanded. A mark keeps an empty pair of quotes visible. -/
inductive Cell where
  | mark
  | char (c : Char) (quoted : Bool)
  deriving DecidableEq, Repr

/-- A part of a text that separators split. Where the arguments of the shell stand apart, only the
character with the number zero does. -/
structure Region where
  start : Nat
  stop : Nat
  onlyZero : Bool
  deriving DecidableEq, Repr

structure Expansion where
  cells : Array Cell := #[]
  regions : Array Region := #[]

namespace Expansion

def push (e : Expansion) (c : Cell) : Expansion := { e with cells := e.cells.push c }

def pushAll (e : Expansion) (s : Octets) (quoted : Bool) : Expansion :=
  { e with cells := s.foldl (fun cells c => cells.push (.char c quoted)) e.cells }

def record (e : Expansion) (start : Nat) (onlyZero : Bool) : Expansion :=
  { e with regions := e.regions.push { start, stop := e.cells.size, onlyZero } }

/-- Goes back to a length, regions that begin there or later left out. -/
def truncate (e : Expansion) (n : Nat) : Expansion :=
  { cells := e.cells.extract 0 n, regions := e.regions.filter (·.start < n) }

def markedFrom (e : Expansion) (n : Nat) : Marked :=
  (e.cells.extract n e.cells.size).toList.filterMap fun
    | .mark => none
    | .char c quoted => some (c, quoted)

end Expansion

namespace Marked

def settle : Marked → Marked
  | ('\\', false) :: (c, false) :: rest => (c, true) :: settle rest
  | c :: rest => c :: settle rest
  | [] => []

def hasWildcards : Nat → Marked → Bool
  | 0, _ | _, [] => false
  | fuel + 1, (c, quoted) :: rest =>
    if quoted then hasWildcards fuel rest
    else if c = '*' || c = '?' then true
    else if c = '[' then
      let inside := (rest.drop 1).takeWhile fun (d, _) => d ≠ '/'
      inside.contains (']', false) || hasWildcards fuel rest
    else hasWildcards fuel rest

end Marked

namespace Field

def isDefaultSeparator (c : Char) : Bool := c = ' ' || c = '\t' || c = '\n' || c = '\x00'

structure Progress where
  fields : List (List Cell) := []
  start : Nat := 0
  inBlanks : Bool := false
  afterZero : Bool := false
  onlyZero : Bool := false
  left : Option Nat := none
  cutAt : Option Nat := none

def slice (cells : Array Cell) (start stop : Nat) : List Cell := (cells.extract start stop).toList

def step (separators : List Char) (cells : Array Cell) (p : Progress) (at_ : Nat) : Progress :=
  let c : Option Char := match cells[at_]? with
    | some (.char c _) => some c
    | _ => none
  let separates := match c with
    | some c => c = '\x00' || !p.onlyZero && separators.contains c
    | none => false
  let isBlank := separates && (c.map isDefaultSeparator).getD false
  if p.left = some 0 then
    if isBlank then { p with cutAt := p.cutAt.or (some at_) }
    else
      let cutAt := if separates && p.inBlanks then p.cutAt else none
      { p with cutAt, inBlanks := false }
  else
    let next := if separates then at_ + 1 else at_
    let wasInBlanks := p.inBlanks
    let p := if wasInBlanks then { p with start := next } else p
    if wasInBlanks && isBlank then p
    else if separates && !wasInBlanks then
      let p := if p.afterZero || p.onlyZero then p else { p with inBlanks := isBlank }
      if at_ = p.start && p.inBlanks then { p with start := at_ + 1, inBlanks := false }
      else
        let left := p.left.map (· - 1)
        if left = some 0 then { p with left, cutAt := some at_ }
        else { p with left, fields := slice cells p.start at_ :: p.fields, start := at_ + 1 }
    else { p with inBlanks := false }

def stepRegion (separators : List Char) (cells : Array Cell) (p : Progress) (r : Region) :
    Progress :=
  let p := { p with afterZero := p.onlyZero, onlyZero := r.onlyZero, inBlanks := false }
  (List.range (r.stop - r.start)).foldl (fun p i => step separators cells p (r.start + i)) p

def split (separators : List Char) (limit : Option Nat) (e : Expansion) : List (List Cell) :=
  let p := e.regions.foldl (stepRegion separators e.cells) { left := limit }
  let stop := p.cutAt.getD e.cells.size
  let last := slice e.cells p.start stop
  (if p.onlyZero || !last.isEmpty then last :: p.fields else p.fields).reverse

def marked (cells : List Cell) : Marked :=
  cells.filterMap fun
    | .mark => none
    | .char c quoted => some (c, quoted)

def plain (cells : List Cell) : Octets := (marked cells).plain

def components : Marked → List Marked
  | [] => [[]]
  | (c, quoted) :: rest =>
    match components rest with
    | [] => [[(c, quoted)]]
    | first :: more => if c = '/' then [] :: first :: more else ((c, quoted) :: first) :: more

def entries (s : Storage) (dir : Octets) (pattern : Marked) : List Octets :=
  match s.status true (if dir.isEmpty then ['.'] else dir) with
  | .ok (l, .directory) =>
    let showsHidden := pattern.head?.map (·.1) = some '.'
    let names := (s.names l).map Octets.ofString
    let p := Pattern.ofMarked pattern
    ((if showsHidden then [['.'], ['.', '.']] else []) ++ names).filter fun name =>
      (showsHidden || name.head? ≠ some '.') && p.accepts name
  | _ => []

def matching (s : Storage) (done : Octets) : List Marked → List Octets
  | [] => []
  | [last] =>
    if last.hasWildcards last.length then (entries s done last).map (done ++ ·)
    else
      let p := done ++ last.plain
      if (s.status false p).isOk then [p] else []
  | part :: next :: rest =>
    if part.hasWildcards part.length then
      (entries s done part).flatMap fun name => matching s (done ++ name ++ ['/']) (next :: rest)
    else matching s (done ++ part.plain ++ ['/']) (next :: rest)

def paths (m : Machine) (field : List Cell) : List Octets :=
  let text := marked field
  let pattern := text.settle
  let parts := components pattern
  if m.has 'f' || !parts.any fun part => part.hasWildcards part.length then [text.plain]
  else
    match matching m.storage [] parts with
    | [] => [text.plain]
    | ps => ps.mergeSort Octets.atMost

end Field

end DeployForge.Shell
