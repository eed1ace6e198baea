import DeployForge.Toml.Assembly
import DeployForge.Toml.Scalar

namespace DeployForge.Toml

def depthLimit : Nat := 80

def comment? (s : List Char) : Option (List Char) :=
  let rest := s.dropWhile isPlain
  if rest.isEmpty || (newline? rest).isSome then some rest else none

def skipLines : Nat → List Char → Option (List Char)
  | 0, _ => none
  | fuel + 1, s =>
    match skipSpace s with
    | '#' :: rest => do skipLines fuel (← comment? rest)
    | s =>
      match newline? s with
      | some rest => skipLines fuel rest
      | none => some s

def skipAll (s : List Char) : Option (List Char) := skipLines (s.length + 1) s

def isBare (c : Char) : Bool := c.isAlphanum || c = '_' || c = '-'

def name? : List Char → Option (String × List Char)
  | '"' :: rest => (basic? rest).map fun (text, rest) => (.ofList text, rest)
  | '\'' :: rest => (literal? rest).map fun (text, rest) => (.ofList text, rest)
  | s =>
    let front := s.takeWhile isBare
    if front.isEmpty then none else some (.ofList front, s.drop front.length)

def names? : Nat → List Char → Option (List String × List Char)
  | 0, _ => none
  | fuel + 1, s => do
    let (name, rest) ← name? (skipSpace s)
    match skipSpace rest with
    | '.' :: rest => do
      let (names, rest) ← names? fuel rest
      return (name :: names, rest)
    | rest => return ([name], rest)

def key? (s : List Char) : Option (List String × String × List Char) := do
  let (names, rest) ← names? depthLimit s
  let last ← names.getLast?
  if names.length < depthLimit then some (names.dropLast, last, rest) else none

def expect? (c : Char) : List Char → Option (List Char)
  | d :: rest => if d = c then some rest else none
  | [] => none

mutual

def value? : Nat → Nat → List Char → Option (Value × List Char)
  | 0, _, _ => none
  | fuel + 1, depth, s =>
    match s with
    | '[' :: rest => do
      if depth + 1 ≥ depthLimit then failure
      let (elements, rest) ← elements? fuel (depth + 1) rest
      return (.array elements, rest)
    | '\x7b' :: rest => do
      if depth + 1 ≥ depthLimit then failure
      let (assignments, rest) ← match skipSpace rest with
        | '\x7d' :: rest => some ([], rest)
        | _ => members? fuel (depth + 1) rest
      return (.table .inlined (← assign assignments []), rest)
    | '"' :: _ | '\'' :: _ => do
      let (text, rest) ← text? s
      return (.string (.ofList text), rest)
    | _ => scalar? s

def elements? : Nat → Nat → List Char → Option (List Value × List Char)
  | 0, _, _ => none
  | fuel + 1, depth, s => do
    match ← skipAll s with
    | ']' :: rest => return ([], rest)
    | s =>
      let (v, rest) ← value? fuel depth s
      match ← skipAll rest with
      | ']' :: rest => return ([v], rest)
      | ',' :: rest =>
        let (more, rest) ← elements? fuel depth rest
        return (v :: more, rest)
      | _ => none

/-- The members of an inline table up to its closing brace, which may not follow a comma. -/
def members? : Nat → Nat → List Char → Option (List Assignment × List Char)
  | 0, _, _ => none
  | fuel + 1, depth, s => do
    let (path, key, rest) ← key? s
    let (v, rest) ← value? fuel depth (skipSpace (← expect? '=' rest))
    match skipSpace rest with
    | '\x7d' :: rest => return ([⟨path, key, v⟩], rest)
    | ',' :: rest =>
      let (more, rest) ← members? fuel depth rest
      return (⟨path, key, v⟩ :: more, rest)
    | _ => none

end

def assignment? (s : List Char) : Option (Assignment × List Char) := do
  let (path, key, rest) ← key? s
  let rest := skipSpace (← expect? '=' rest)
  let (v, rest) ← value? (2 * rest.length + 2) 0 rest
  return (⟨path, key, v⟩, rest)

def header? : List Char → Option (Header × List Char)
  | '[' :: '[' :: rest => do
    let (path, key, rest) ← key? rest
    return (.element path key, ← expect? ']' (← expect? ']' rest))
  | '[' :: rest => do
    let (path, key, rest) ← key? rest
    return (.table path key, ← expect? ']' rest)
  | _ => none

def lineEnd? (s : List Char) : Option (List Char) := do
  let rest ← match skipSpace s with
    | '#' :: rest => comment? rest
    | rest => some rest
  if rest.isEmpty then some [] else newline? rest

def sections? : Nat → List Char → Option (List Assignment × List Section)
  | 0, _ => none
  | fuel + 1, s => do
    match ← skipAll s with
    | [] => return ([], [])
    | '[' :: rest =>
      let (header, rest) ← header? ('[' :: rest)
      let (assignments, sections) ← sections? fuel (← lineEnd? rest)
      return ([], ⟨header, assignments⟩ :: sections)
    | s =>
      let (assignment, rest) ← assignment? s
      let (assignments, sections) ← sections? fuel (← lineEnd? rest)
      return (assignment :: assignments, sections)

/-- A byte order mark at the start is passed over. -/
def document? (s : List Char) : Option Entries := do
  let s := match s with
    | '\uFEFF' :: rest => rest
    | s => s
  let (assignments, sections) ← sections? (s.length + 1) s
  assemble (⟨.root, assignments⟩ :: sections)

end DeployForge.Toml
