import DeployForge.Text.Search

/-!
Sets of replacements for a text. Every token is looked for in the text as given, and a span
that an earlier token took is left to it.
-/

namespace DeployForge

structure Span where
  start : Nat
  stop : Nat
  value : List Char
  deriving DecidableEq, Repr

namespace Span

def isDisjoint (a b : Span) : Bool := a.stop ≤ b.start || b.stop ≤ a.start

/-- `s` with each span, in the order of the list, replaced by its value; `s` starts at `cursor`. -/
def stitch (cursor : Nat) (s : List Char) : List Span → List Char
  | [] => s
  | span :: more =>
    s.take (span.start - cursor) ++ span.value
      ++ stitch span.stop (s.drop (span.stop - cursor)) more

end Span

def literal (s : String) : String := "\"" ++ s ++ "\""

structure ReplacementSet where
  pairs : List (String × String) := []
  deriving DecidableEq, Repr

namespace ReplacementSet

def size (set : ReplacementSet) : Nat := set.pairs.length

def isEmpty (set : ReplacementSet) : Bool := set.pairs.isEmpty

def push (set : ReplacementSet) (token value : String) : ReplacementSet :=
  ⟨set.pairs ++ [(token, value)]⟩

def value? (set : ReplacementSet) (token : String) : Option String := set.pairs.lookup token

def overrideFirst (token value : String) : List (String × String) → List (String × String)
  | [] => []
  | (t, v) :: rest =>
    if t = token then (t, value) :: rest else (t, v) :: overrideFirst token value rest

/-- The same tokens with another value for the first pair of the quoted `token`. -/
def override (set : ReplacementSet) (token value : String) : ReplacementSet :=
  ⟨overrideFirst (literal token) (literal value) set.pairs⟩

def claim (taken : List Span) (span : Span) : List Span :=
  if taken.all (span.isDisjoint ·) then taken ++ [span] else taken

/-- The spans of one token's occurrences in `s`. An empty token has none. -/
def candidates (s : List Char) (token value : List Char) : List Span :=
  if token.isEmpty then []
  else (Text.occurrences token s).map fun start => ⟨start, start + token.length, value⟩

/-- The spans that are replaced, in the order in which they were taken. -/
def claims (set : ReplacementSet) (s : List Char) : List Span :=
  set.pairs.foldl
    (fun taken (token, value) => (candidates s token.toList value.toList).foldl claim taken) []

def spans (set : ReplacementSet) (s : List Char) : List Span :=
  (set.claims s).mergeSort fun a b => a.start ≤ b.start

def apply (set : ReplacementSet) (text : String) : String :=
  .ofList (Span.stitch 0 text.toList (set.spans text.toList))

end ReplacementSet

end DeployForge
