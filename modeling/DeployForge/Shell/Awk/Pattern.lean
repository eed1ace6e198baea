import DeployForge.Shell.Escape
import DeployForge.Shell.Regex.Reading

namespace DeployForge.Shell.Awk

def unescaped : List Char → Option (Char × List Char)
  | [] => none
  | c :: rest =>
    let ds := ((c :: rest).take 3).takeWhile isOctal
    if !ds.isEmpty then some (Escape.octal ds, (c :: rest).drop ds.length)
    else
      match if c = 'e' then none else Escape.letter? c with
      | some d => some (d, rest)
      | none => some (c, rest)

def literal (c : Char) : Octets := if ".[\\()*+?\x7b\x7d|^$".toList.contains c then ['\\', c] else [c]

structure Members where
  parts : Octets := []
  singles : List Char := []

def Members.text (m : Members) (negated : Bool) : Octets :=
  let only (c : Char) : Octets := if m.singles.contains c then [c] else []
  let plain := m.parts ++ m.singles.filter (fun c => !("]^-[".toList.contains c)) ++ only '['
  let inner := only ']' ++ plain
  if inner.isEmpty && !negated && m.singles.contains '^' then
    if m.singles.contains '-' then "[-^]".toList else literal '^'
  else '[' :: (if negated then ['^'] else []) ++ inner ++ only '^' ++ only '-' ++ [']']

def members : Nat → Bool → Members → List Char → Option (Members × List Char)
  | 0, _, _, _ | _, _, _, [] => none
  | fuel + 1, isFirst, m, s =>
    match s with
    | ']' :: rest => if isFirst then single fuel m ']' rest else some (m, rest)
    | '[' :: ':' :: rest =>
      let name := rest.takeWhile Char.isAlpha
      match rest.drop name.length with
      | ':' :: ']' :: after =>
        if (CharSet.ofClass? name).isSome then
          members fuel false { m with parts := m.parts ++ "[:".toList ++ name ++ ":]".toList } after
        else none
      | _ => single fuel m '[' (':' :: rest)
    | '\\' :: rest =>
      match unescaped rest with
      | some (c, rest) => single fuel m c rest
      | none => none
    | c :: rest => single fuel m c rest
    | [] => none
where
  single (fuel : Nat) (m : Members) (c : Char) (rest : List Char) :
      Option (Members × List Char) :=
    let alone : Members := { m with singles := m.singles ++ [c] }
    match rest with
    | '-' :: ']' :: _ => members fuel false alone rest
    | '-' :: d :: after =>
      match if d = '\\' then unescaped after else some (d, after) with
      | some (d, after) =>
        let (low, high) := if c ≤ d then (c, d) else (d, c)
        members fuel false { m with parts := m.parts ++ [low, '-', high] } after
      | none => none
    | _ => members fuel false alone rest

inductive PatternFault where
  | missingOperand
  | unclosedGroup
  | badClass
  | badInterval
  | badStart
  deriving DecidableEq, Repr

def PatternFault.text : PatternFault → String
  | missingOperand => "missing operand"
  | unclosedGroup => "missing ')'"
  | badClass => "bad class -- [], [^] or ["
  | badInterval => "bad interval expression"
  | badStart => "syntax error ^* or ^+"

inductive Before where
  | nothing
  | start
  | operand
  deriving DecidableEq, Repr

def isInterval (s : List Char) : Bool :=
  let low := s.takeWhile Char.isDigit
  match s.drop low.length with
  | '\x7d' :: _ => !low.isEmpty
  | ',' :: rest => (rest.dropWhile Char.isDigit).head? = some '\x7d' && !low.isEmpty
  | _ => false

def translated : Nat → Before → Nat → List Char → Except PatternFault Octets
  | 0, _, _, _ => .ok []
  | fuel + 1, before, depth, s =>
    match s with
    | [] =>
      if 0 < depth then .error .unclosedGroup
      else if before = .nothing then .error .missingOperand else .ok []
    | '\\' :: rest =>
      match unescaped rest with
      | some (c, rest) => do return literal c ++ (← translated fuel .operand depth rest)
      | none => .ok ['\\', '\\']
    | '[' :: rest =>
      let (negated, inner) := match rest with
        | '^' :: inner => (true, inner)
        | _ => (false, rest)
      match members (inner.length + 1) true {} inner with
      | some (m, rest) => do return m.text negated ++ (← translated fuel .operand depth rest)
      | none => .error .badClass
    | '(' :: rest => do
      if rest.isEmpty then .error .unclosedGroup
      return '(' :: (← translated fuel .nothing (depth + 1) rest)
    | ')' :: rest =>
      if depth = 0 then do return "\\)".toList ++ (← translated fuel .operand depth rest)
      else if before = .nothing then .error .missingOperand
      else do return ')' :: (← translated fuel .operand (depth - 1) rest)
    | '|' :: rest =>
      if before = .nothing then .error .missingOperand
      else do return '|' :: (← translated fuel .nothing depth rest)
    | '^' :: rest => do return '^' :: (← translated fuel .start depth rest)
    | '$' :: rest => do return '$' :: (← translated fuel .operand depth rest)
    | '\x7b' :: rest =>
      if isInterval rest && before = .operand then do
        return '\x7b' :: (← translated fuel .operand depth rest)
      else do return "\\\x7b".toList ++ (← translated fuel .operand depth rest)
    | c :: rest =>
      if c = '*' || c = '+' || c = '?' then
        match before with
        | .nothing => .error .missingOperand
        | .start => .error .badStart
        | .operand => do return c :: (← translated fuel .operand depth rest)
      else do return c :: (← translated fuel .operand depth rest)

def pattern (s : Octets) : Except PatternFault Regex := do
  if s.isEmpty then return .empty
  let t ← translated (s.length + 1) .nothing 0 s
  match Regex.parse { extended := true, lenient := true } t with
  | .ok r => return r.regex
  | .error .badBrace | .error .unclosedBrace => .error .badInterval
  | .error _ => .error .badClass

end DeployForge.Shell.Awk
