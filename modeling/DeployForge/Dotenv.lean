import DeployForge.Text.Blank
import DeployForge.Text.WordCharacters
import DeployForge.Variables

/-!
Files of environment variables. Quotes, a trailing backslash and a trailing blank continue a line
onto the next one, and values may name variables that come from the environment or stand earlier
in the file.
-/

namespace DeployForge.Dotenv

open Text

inductive Problem where
  | unreadable
  | badLine (line : List Char)
  deriving DecidableEq, Repr

/-! The end of a line -/

inductive Mode where
  | plain
  | escaped
  | strong
  | strongEscaped
  | weak
  | weakEscaped
  | blank
  deriving DecidableEq, Repr

def Mode.next (mode : Mode) (c : Char) : Mode :=
  match mode with
  | .plain =>
    if isBlank c && c ≠ '\n' && c ≠ '\r' then .blank
    else if c = '\\' then .escaped
    else if c = '"' then .weak
    else if c = '\'' then .strong
    else .plain
  | .blank =>
    if c = '\\' then .escaped
    else if c = '"' then .weak
    else if c = '\'' then .strong
    else .plain
  | .escaped => .plain
  | .weak => if c = '\\' then .weakEscaped else if c = '"' then .plain else .weak
  | .weakEscaped => .weak
  | .strong => if c = '\\' then .strongEscaped else if c = '\'' then .plain else .strong
  | .strongEscaped => .strong

/-- The mode behind a physical line. If a comment begins in it, what stands before that. -/
def scan (mode : Mode) : List Char → Mode × Option (List Char)
  | [] => (mode, none)
  | c :: rest =>
    if mode = .blank && c = '#' then (mode, some [])
    else
      let (mode, front) := scan (mode.next c) rest
      (mode, front.map (c :: ·))

def dropLineEnd (s : List Char) : List Char :=
  match s.reverse with
  | '\n' :: '\r' :: front => front.reverse
  | '\n' :: front => front.reverse
  | _ => s

abbrev Source := List (Option (List Char))

/-- The next logical line, where `front` has been read already, and the lines behind it. -/
def logicalLine (front : List Char) (mode : Mode) :
    Source → Option (Except Problem (List Char) × Source)
  | [] => if mode = .plain then none else some (.error (.badLine front), [])
  | none :: rest => some (.error .unreadable, rest)
  | some line :: rest =>
    let text := front ++ line
    if (trimStart text).head? = some '#' then some (.ok [], rest)
    else match scan mode line with
      | (_, some before) => some (.ok (front ++ before), rest)
      | (.plain, none) => some (.ok (dropLineEnd text), rest)
      | (mode, none) => logicalLine text mode rest

theorem length_of_logicalLine {front : List Char} {mode : Mode} {s rest : Source}
    {r : Except Problem (List Char)} (h : logicalLine front mode s = some (r, rest)) :
    rest.length < s.length ∨ s = [] := by
  induction s generalizing front mode with
  | nil => exact .inr rfl
  | cons line s ih =>
    refine .inl ?_
    cases line with
    | none =>
      simp only [logicalLine, Option.some.injEq, Prod.mk.injEq] at h
      simp [← h.2]
    | some line =>
      rw [logicalLine] at h
      split at h
      · simp only [Option.some.injEq, Prod.mk.injEq] at h
        simp [← h.2]
      · split at h
        · simp only [Option.some.injEq, Prod.mk.injEq] at h
          simp [← h.2]
        · simp only [Option.some.injEq, Prod.mk.injEq] at h
          simp [← h.2]
        · rcases ih h with h' | rfl
          · simp only [List.length_cons]
            omega
          · simp only [logicalLine] at h
            split at h
            · cases h
            · simp only [Option.some.injEq, Prod.mk.injEq] at h
              simp [← h.2]

/-! Values -/

/-- Where in a value a character stands. A reference collects the name it has so far. -/
inductive Place where
  | plain
  | escaped
  | strong
  | reference (name : List Char)
  | braced (name : List Char)
  | ending
  deriving DecidableEq, Repr

structure ValueState where
  place : Place := .plain
  weak : Bool := false
  output : List Char := []

def ValueState.ordinary (s : ValueState) (c : Char) : ValueState :=
  if c = '$' then { s with place := .reference [] }
  else if c = '\\' then { s with place := .escaped }
  else if c = '"' then { s with weak := !s.weak }
  else if s.weak then { s with output := s.output ++ [c] }
  else if c = '\'' then { s with place := .strong }
  else if c = ' ' || c = '\t' then { s with place := .ending }
  else { s with output := s.output ++ [c] }

def escape? (c : Char) : Option Char :=
  if c = '\\' || c = '\'' || c = '"' || c = '$' || c = ' ' then some c
  else if c = 'n' then some '\n'
  else none

def expand (lookup : String → Option String) (name : List Char) (s : ValueState) : ValueState :=
  { s with place := .plain, output := s.output ++ ((lookup (.ofList name)).getD "").toList }

/-- The character that ends a bare reference is taken as it is, unless it begins another one. -/
def valueFrom? (lookup : String → Option String) (s : ValueState) : List Char → Option (List Char)
  | [] =>
    match s.place with
    | .braced _ | .strong => none
    | .reference name => if s.weak then none else some (expand lookup name s).output
    | _ => if s.weak then none else some s.output
  | c :: rest =>
    match s.place with
    | .ending =>
      if c = ' ' || c = '\t' then valueFrom? lookup s rest
      else if c = '#' then some s.output
      else none
    | .escaped => do
      valueFrom? lookup { s with place := .plain, output := s.output ++ [← escape? c] } rest
    | .strong =>
      valueFrom? lookup
        (if c = '\'' then { s with place := .plain } else { s with output := s.output ++ [c] }) rest
    | .reference name =>
      if isWordCharacter c then valueFrom? lookup { s with place := .reference (name ++ [c]) } rest
      else if c = '\x7b' && name.isEmpty then valueFrom? lookup { s with place := .braced [] } rest
      else
        let s := expand lookup name s
        valueFrom? lookup
          (if c = '$' then { s with place := .reference [] }
            else { s with output := s.output ++ [c] }) rest
    | .braced name =>
      valueFrom? lookup
        (if c = '\x7d' then expand lookup name s else { s with place := .braced (name ++ [c]) })
        rest
    | .plain => valueFrom? lookup (s.ordinary c) rest

def value? (lookup : String → Option String) (s : List Char) : Option String :=
  (valueFrom? lookup {} s).map .ofList

/-! Entries -/

def isKeyStart (c : Char) : Bool := c.isAlpha || c = '_'
def isKeyChar (c : Char) : Bool := c.isAlphanum || c = '_' || c = '.'

def key? (s : List Char) : Option (List Char × List Char) :=
  match s with
  | c :: _ => if isKeyStart c then some (s.takeWhile isKeyChar, s.dropWhile isKeyChar) else none
  | [] => none

def equals? (s : List Char) : Option (List Char) :=
  match trimStart s with
  | '=' :: rest => some (trimStart rest)
  | _ => none

/-- The key of an entry and what stands behind its equals sign. The word `export` may go before
the key, and is the key itself where the equals sign follows it. -/
def assignment? (s : List Char) : Option (String × List Char) := do
  let (key, rest) ← key? s
  match equals? rest with
  | some value => return (.ofList key, value)
  | none =>
    if key = "export".toList then
      let (key, rest) ← key? (trimStart rest)
      return (.ofList key, ← equals? rest)
    else none

def entry (lookup : String → Option String) (line : List Char) :
    Except Problem (Option (String × String)) :=
  let s := trimStart (trimEnd line)
  if s.isEmpty || s.head? = some '#' then .ok none
  else match assignment? s with
    | none => .error (.badLine line)
    | some (key, value) =>
      if value.isEmpty || value.head? = some '#' then .ok (some (key, ""))
      else match value? lookup value with
        | some text => .ok (some (key, text))
        | none => .error (.badLine value)

/-- The variables of a file behind the `earlier` ones, the last one first. -/
def entriesFrom (environment earlier : Variables) (s : Source) : Except Problem Variables :=
  match h : logicalLine [] .plain s with
  | none => .ok earlier
  | some (.error e, _) => .error e
  | some (.ok line, rest) => do
    let lookup (name : String) := (environment.value? name).or (earlier.lookup name)
    have : rest.length < s.length := by
      rcases length_of_logicalLine h with h' | rfl
      · exact h'
      · simp [logicalLine] at h
    entriesFrom environment ((← entry lookup line).toList ++ earlier) rest
termination_by s.length

def bytesLines : List UInt8 → List (List UInt8)
  | [] => []
  | b :: rest =>
    if b = '\n'.toNat.toUInt8 then [b] :: bytesLines rest
    else match bytesLines rest with
      | [] => [[b]]
      | line :: more => (b :: line) :: more

/-- Each physical line is read as text on its own. -/
def source (content : ByteArray) : Source :=
  (bytesLines content.toList).map fun line =>
    (String.fromUTF8? line.toByteArray).map String.toList

def read (environment : Variables) (content : ByteArray) : Except Problem Variables :=
  entriesFrom environment [] (source content)

end DeployForge.Dotenv
