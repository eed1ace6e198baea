import DeployForge.Text.Split

/-! Paths as texts, joined without being normalised. -/

namespace DeployForge

structure Path where
  text : String
  deriving DecidableEq, Repr

namespace Path

def isAbsolute (p : Path) : Bool := p.text.toList.head? = some '/'

def endsInSlash (p : Path) : Bool := p.text.toList.getLast? = some '/'

/-- An absolute right side stands alone. -/
def join (base p : Path) : Path :=
  if p.isAbsolute then p
  else if base.text.isEmpty || base.endsInSlash then ⟨base.text ++ p.text⟩
  else ⟨base.text ++ "/" ++ p.text⟩

/-- The names between the slashes, without the empty ones and those that stay in place. -/
def names (p : Path) : List String :=
  ((Text.splitAt '/' p.text.toList).filter fun piece => piece ≠ [] ∧ piece ≠ ['.']).map
    String.ofList

def endsInDot (p : Path) : Bool :=
  ((Text.splitAt '/' p.text.toList).filter (· ≠ [])).getLast? = some ['.']

def ofNames : List String → Path
  | [] => ⟨"/"⟩
  | name :: rest => ⟨(name :: rest).foldl (fun text n => text ++ "/" ++ n) ""⟩

def withoutLead : List Char → List Char
  | '/' :: s => withoutLead s
  | '.' :: '/' :: s => withoutLead s
  | ['.'] => []
  | s => s

def withoutNames : Nat → List Char → List Char
  | 0, s => withoutLead s
  | n + 1, s => withoutNames n ((withoutLead s).dropWhile (· ≠ '/'))

/-- What is left of `p` under the directory `base`, if it lies there. The rest is kept as it was
written. -/
def relativeTo? (base p : Path) : Option Path :=
  if base.isAbsolute = p.isAbsolute ∧ base.names.isPrefixOf p.names then
    some ⟨.ofList (withoutNames base.names.length p.text.toList)⟩
  else none

end Path

end DeployForge
