import DeployForge.Shell.CharSet

namespace DeployForge.Shell

inductive Wildcard where
  | char (c : Char)
  | any
  | star
  | set (members : CharSet)
  deriving DecidableEq, Repr

abbrev Pattern := List Wildcard

/-- A text with, at each character, whether it was quoted. -/
abbrev Marked := List (Char × Bool)

namespace Marked

def plain (s : Marked) : Octets := s.map (·.1)

def escaped : Octets → Marked
  | '\\' :: c :: rest => (c, true) :: escaped rest
  | c :: rest => (c, false) :: escaped rest
  | [] => []

end Marked

namespace Pattern

def class? (s : Marked) : Option (List (Char × Char) × Marked) :=
  match s with
  | (':', false) :: rest =>
    let name := rest.takeWhile fun (c, quoted) => c ≠ ':' && !quoted
    match CharSet.ofClass? (Marked.plain name), rest.drop name.length with
    | some ranges, (':', false) :: (']', false) :: rest => some (ranges, rest)
    | _, _ => none
  | _ => none

/-- The members of a set up to its closing bracket, which does not close it in the first place. -/
def members? : Nat → Bool → Marked → Option (List (Char × Char) × Marked)
  | 0, _, _ | _, _, [] => none
  | fuel + 1, isFirst, (c, quoted) :: rest =>
    if c = ']' && !quoted && !isFirst then some ([], rest)
    else
      match if c = '[' && !quoted then class? rest else none with
      | some (ranges, rest) => do
        let (more, rest) ← members? fuel false rest
        return (ranges ++ more, rest)
      | none =>
        match rest with
        | ('-', false) :: (high, q) :: after => do
          if high = ']' && !q then
            let (more, rest) ← members? fuel false rest
            return ((c, c) :: more, rest)
          else
            let (more, rest) ← members? fuel false after
            return ((c, high) :: more, rest)
        | _ => do
          let (more, rest) ← members? fuel false rest
          return ((c, c) :: more, rest)

def set? (carets : Bool) (s : Marked) : Option (CharSet × Marked) := do
  let (negated, s) := match s with
    | ('!', false) :: rest => (true, rest)
    | ('^', false) :: rest => if carets then (true, rest) else (false, s)
    | _ => (false, s)
  let (ranges, rest) ← members? (s.length + 1) true s
  return ({ negated, ranges }, rest)

def ofMarkedWithin (carets : Bool) : Nat → Marked → Pattern
  | 0, _ | _, [] => []
  | fuel + 1, (c, quoted) :: rest =>
    if quoted then .char c :: ofMarkedWithin carets fuel rest
    else if c = '*' then .star :: ofMarkedWithin carets fuel (rest.dropWhile (· = ('*', false)))
    else if c = '?' then .any :: ofMarkedWithin carets fuel rest
    else if c = '[' then
      match set? carets rest with
      | some (members, after) => .set members :: ofMarkedWithin carets fuel after
      | none => .char c :: ofMarkedWithin carets fuel rest
    else .char c :: ofMarkedWithin carets fuel rest

def ofMarked (s : Marked) : Pattern := ofMarkedWithin false (s.length + 1) s

def ofName (s : Octets) : Pattern := ofMarkedWithin true (s.length + 1) (Marked.escaped s)

def suffixes : List Char → List (List Char)
  | [] => [[]]
  | c :: rest => (c :: rest) :: suffixes rest

def accepts : Pattern → List Char → Bool
  | [], s => s.isEmpty
  | .star :: p, s => p.isEmpty || (suffixes s).any (accepts p)
  | .char c :: p, d :: s => c = d && accepts p s
  | .any :: p, _ :: s => accepts p s
  | .set members :: p, d :: s => members.contains d && accepts p s
  | _ :: _, [] => false

def dropFront (p : Pattern) (longest : Bool) (s : List Char) : List Char :=
  let lengths := List.range (s.length + 1)
  let lengths := if longest then lengths.reverse else lengths
  match lengths.find? fun n => accepts p (s.take n) with
  | some n => s.drop n
  | none => s

def dropBack (p : Pattern) (longest : Bool) (s : List Char) : List Char :=
  let lengths := List.range (s.length + 1)
  let lengths := if longest then lengths else lengths.reverse
  match lengths.find? fun n => accepts p (s.drop n) with
  | some n => s.take n
  | none => s

end Pattern

end DeployForge.Shell
