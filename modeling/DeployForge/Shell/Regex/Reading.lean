import DeployForge.Shell.Regex

namespace DeployForge.Shell.Regex

structure Dialect where
  extended : Bool := false
  /-- Whether what makes no sense is taken as well as it can be, as searching programs do. -/
  lenient : Bool := false
  deriving DecidableEq, Repr

inductive Fault where
  | badPattern
  | badReference
  | unclosedBracket
  | unclosedGroup
  | unopenedGroup
  | unclosedBrace
  | badBrace
  | badRange
  | badClass
  | badElement
  | badRepeat
  | tooBig
  | backslash
  deriving DecidableEq, Repr

def Fault.text : Fault → String
  | badPattern => "Invalid regular expression"
  | badReference => "Invalid back reference"
  | unclosedBracket => "Unmatched [, [^, [:, [., or [="
  | unclosedGroup => "Unmatched ( or \\("
  | unopenedGroup => "Unmatched ) or \\)"
  | unclosedBrace => "Unmatched \\\x7b"
  | badBrace => "Invalid content of \\\x7b\\\x7d"
  | badRange => "Invalid range end"
  | badClass => "Invalid character class name"
  | badElement => "Invalid collation character"
  | badRepeat => "Invalid preceding regular expression"
  | tooBig => "Regular expression too big"
  | backslash => "Trailing backslash"

structure Reading where
  rest : List Char
  isStart : Bool := true
  groups : Nat := 0
  closed : List Nat := []
  depth : Nat := 0
  misplaced : List String := []

abbrev Read := StateT Reading (Except Fault)

inductive Token where
  | finish
  | char (c : Char)
  | any
  | bracket
  | anchor (a : Anchor)
  | set (members : CharSet)
  | back (n : Nat)
  | opens
  | closes
  | bar
  | times (mark : Char) (least : Nat) (most : Option Nat)
  | brace
  deriving DecidableEq, Repr

def wordSet (negated : Bool) : CharSet :=
  ⟨negated, [('_', '_'), ('0', '9'), ('A', 'Z'), ('a', 'z')]⟩

def spaceSet (negated : Bool) : CharSet := ⟨negated, [('\t', '\r'), (' ', ' ')]⟩

def star : Token := .times '*' 0 none

def plus : Token := .times '+' 1 none

def question : Token := .times '?' 0 (some 1)

def escaped (d : Dialect) (c : Char) : Token :=
  match c with
  | 'w' => .set (wordSet false)
  | 'W' => .set (wordSet true)
  | 's' => .set (spaceSet false)
  | 'S' => .set (spaceSet true)
  | '<' => .anchor .wordStart
  | '>' => .anchor .wordEnd
  | 'b' => .anchor .wordEdge
  | 'B' => .anchor .noEdge
  | '\x60' => .anchor .textStart
  | '\'' => .anchor .textEnd
  | '(' => if d.extended then .char c else .opens
  | ')' => if d.extended then .char c else .closes
  | '|' => if d.extended then .char c else .bar
  | '\x7b' => if d.extended then .char c else .brace
  | '+' => if d.extended then .char c else plus
  | '?' => if d.extended then .char c else question
  | _ => if '1' ≤ c && c ≤ '9' then .back (c.toNat - 48) else .char c

def endsBranch : List Char → Bool
  | [] => true
  | '\\' :: c :: _ => c = ')' || c = '|'
  | _ => false

def token (d : Dialect) (r : Reading) : Except Fault (Token × List Char) :=
  match r.rest with
  | [] => .ok (.finish, [])
  | ['\\'] => .error .backslash
  | '\\' :: c :: rest => .ok (escaped d c, rest)
  | c :: rest =>
    let t : Token := match c with
      | '.' => .any
      | '[' => .bracket
      | '*' => star
      | '^' => if d.extended || r.isStart then .anchor .lineStart else .char c
      | '$' => if d.extended || endsBranch rest then .anchor .lineEnd else .char c
      | '(' => if d.extended then .opens else .char c
      | ')' => if d.extended then .closes else .char c
      | '|' => if d.extended then .bar else .char c
      | '\x7b' => if d.extended then .brace else .char c
      | '+' => if d.extended then plus else .char c
      | '?' => if d.extended then question else .char c
      | _ => .char c
    .ok (t, rest)

def mostTimes : Nat := 32767

/-- The bounds behind an opening brace, with what follows the closing one. `none` says that they
make no sense and the brace may stand for itself. -/
def bounds (d : Dialect) (s : List Char) : Except Fault (Option (Token × List Char)) :=
  let close (rest : List Char) : Option (List Char) :=
    match d.extended, rest with
    | true, '\x7d' :: rest => some rest
    | false, '\\' :: '\x7d' :: rest => some rest
    | _, _ => none
  let low := s.takeWhile Char.isDigit
  let rest := s.drop low.length
  let least := Octets.nat low
  let malformed (rest : List Char) : Except Fault (Option (Token × List Char)) :=
    if d.extended && d.lenient then .ok none
    else .error (if rest.isEmpty || !(rest.any (· = '\x7d')) then .unclosedBrace else .badBrace)
  match rest with
  | ',' :: rest =>
    let high := rest.takeWhile Char.isDigit
    let rest := rest.drop high.length
    match close rest with
    | none => malformed rest
    | some after =>
      if high.isEmpty then
        if least > mostTimes then .error .tooBig else .ok (some (.times '\x7b' least none, after))
      else if Octets.nat high < least then .error .badBrace
      else if Octets.nat high > mostTimes then .error .tooBig
      else .ok (some (.times '\x7b' least (some (Octets.nat high)), after))
  | rest =>
    match close rest with
    | none => malformed rest
    | some after =>
      if low.isEmpty then if d.extended && d.lenient then .ok none else .error .badBrace
      else if least > mostTimes then .error .tooBig
      else .ok (some (.times '\x7b' least (some least), after))

inductive Member where
  | char (c : Char)
  | ranges (rs : List (Char × Char))

def named (mark : Char) : Nat → List Char → Except Fault (List Char × List Char)
  | 0, _ => .error .unclosedBracket
  | fuel + 1, s =>
    match s with
    | [] => .error .unclosedBracket
    | c :: rest =>
      if c = mark && rest.head? = some ']' then .ok ([], rest.tail)
      else do
        let (name, rest) ← named mark fuel rest
        return (c :: name, rest)

def member (s : List Char) : Except Fault (Member × List Char) :=
  match s with
  | [] => .error .unclosedBracket
  | '[' :: ':' :: rest => do
    let (name, rest) ← named ':' 32 rest
    match CharSet.ofClass? name with
    | some ranges => .ok (.ranges ranges, rest)
    | none => .error .badClass
  | '[' :: '.' :: rest => do
    let (name, rest) ← named '.' 32 rest
    match name with
    | [c] => .ok (.char c, rest)
    | _ => .error .badElement
  | '[' :: '=' :: rest => do
    let (name, rest) ← named '=' 32 rest
    match name with
    | [c] => .ok (.ranges [(c, c)], rest)
    | _ => .error .badElement
  | c :: rest => .ok (.char c, rest)

def members : Nat → Bool → List Char → Except Fault (List (Char × Char) × List Char)
  | 0, _, _ => .error .unclosedBracket
  | fuel + 1, isFirst, s =>
    match isFirst, s with
    | false, ']' :: rest => .ok ([], rest)
    | _, s => do
      let (first, rest) ← member s
      match rest with
      | ['-'] => .error .unclosedBracket
      | '-' :: c :: after =>
        if c = ']' then
          let (more, rest) ← members fuel false rest
          match first with
          | .char c => return ((c, c) :: more, rest)
          | .ranges rs => return (rs ++ more, rest)
        else
          let (second, rest) ← member (c :: after)
          match first, second with
          | .char low, .char high =>
            if high < low then .error .badRange
            let (more, rest) ← members fuel false rest
            return ((low, high) :: more, rest)
          | _, _ => .error .badRange
      | _ =>
        let (more, rest) ← members fuel false rest
        match first with
        | .char c => return ((c, c) :: more, rest)
        | .ranges rs => return (rs ++ more, rest)

def bracket (s : List Char) : Except Fault (CharSet × List Char) := do
  let (negated, s) := match s with
    | '^' :: rest => (true, rest)
    | _ => (false, s)
  if s.isEmpty then .error .badPattern
  let (ranges, rest) ← members (s.length + 1) true s
  return (⟨negated, ranges⟩, rest)

def repetitions (d : Dialect) : Nat → Regex → Read Regex
  | 0, r => return r
  | fuel + 1, r => do
    let s ← get
    let (t, rest) ← token d s
    let add (mark : Char) (least : Nat) (most : Option Nat) (rest : List Char) : Read Regex := do
      set { s with rest }
      if !d.extended && !d.lenient then
        match token d { s with rest, isStart := false } with
        | .ok (.times '*' _ _, _) | .ok (.brace, _) => throw .badRepeat
        | _ => pure ()
      let r := match r with
        | .repeated inner l m =>
          if l = least && m = most && mark ≠ '\x7b' then .repeated inner l m
          else .repeated r least most
        | _ => .repeated r least most
      repetitions d fuel r
    match t with
    | .times mark least most => add mark least most rest
    | .brace =>
      match ← bounds d rest with
      | some (.times mark least most, rest) => add mark least most rest
      | _ => return r
    | _ => return r

def join : Regex → Regex → Regex
  | .empty, r => r
  | r, .empty => r
  | a, b => .seq a b

mutual

def alternatives (d : Dialect) : Nat → Read Regex
  | 0 => throw .tooBig
  | fuel + 1 => do
    let known := (← get).closed
    let a ← branch d fuel
    let s ← get
    match ← token d s with
    | (.bar, rest) =>
      set { s with rest, isStart := true, closed := known }
      let b ← alternatives d fuel
      modify fun r => { r with closed := r.closed ++ s.closed }
      return .alt a b
    | _ => return a

def branch (d : Dialect) : Nat → Read Regex
  | 0 => throw .tooBig
  | fuel + 1 => do
    let s ← get
    match ← token d s with
    | (.finish, _) | (.bar, _) => return .empty
    | (.closes, rest) =>
      if s.depth = 0 then
        if d.extended && d.lenient then
          set { s with rest, isStart := false }
          let r ← repetitions d fuel (.char ')')
          return join r (← branch d fuel)
        else throw .unopenedGroup
      else return .empty
    | _ =>
      let r ← piece d fuel
      return join r (← branch d fuel)

def piece (d : Dialect) : Nat → Read Regex
  | 0 => throw .tooBig
  | fuel + 1 => do
    let s ← get
    let (t, rest) ← token d s
    let take : Read Unit := set { s with rest, isStart := false }
    let atom (r : Regex) : Read Regex := do
      take
      repetitions d fuel r
    let misplaced (mark : String) (rest : List Char) : Read Regex := do
      if !d.lenient then throw .badRepeat
      set { s with rest, misplaced := mark :: s.misplaced }
      piece d fuel
    match t with
    | .char c => atom (.char c)
    | .any => atom .any
    | .set members => atom (.oneOf members)
    | .back n =>
      if s.closed.contains n then atom (.back n) else throw .badReference
    | .anchor a =>
      take
      match d.extended && d.lenient, ← token d { s with rest } with
      | true, (.times mark _ _, _) =>
        modify fun s => { s with misplaced := toString mark :: s.misplaced }
        repetitions d fuel (.anchor a)
      | _, _ => return .anchor a
    | .bracket =>
      let (members, rest) ← bracket rest
      set { s with rest, isStart := false }
      repetitions d fuel (.oneOf members)
    | .opens =>
      let n := s.groups + 1
      set { s with rest, isStart := true, groups := n, depth := s.depth + 1 }
      let r ← alternatives d fuel
      let after ← get
      match ← token d after with
      | (.closes, rest) =>
        set { after with
          rest, isStart := false, depth := s.depth, closed := n :: after.closed }
        repetitions d fuel (.group n r)
      | _ => throw .unclosedGroup
    | .times mark _ _ =>
      if d.extended then misplaced (toString mark) rest else atom (.char mark)
    | .brace =>
      if !d.lenient then throw .badRepeat
      match ← bounds d rest with
      | none => atom (.char '\x7b')
      | some (_, after) =>
        if d.extended && d.lenient then
          set { s with rest := after, misplaced := "\x7b...\x7d" :: s.misplaced }
          repetitions d fuel .empty
        else atom (.char '\x7b')
    | .closes => atom (.char ')')
    | .finish | .bar => return .empty

end

def isBareClass (s : List Char) : Bool :=
  match s with
  | ':' :: rest =>
    let inner := rest.takeWhile (· ≠ ']')
    rest.drop inner.length ≠ [] && 1 < inner.length && inner.getLast? = some ':'
      && inner.any (· ≠ ':') && !inner.contains '-' && !inner.contains '['
  | _ => false

def hasBareClass : Nat → List Char → Bool
  | 0, _ | _, [] => false
  | fuel + 1, '\\' :: _ :: rest => hasBareClass fuel rest
  | fuel + 1, '[' :: rest =>
    let inner := if rest.head? = some '^' then rest.tail else rest
    if isBareClass inner then true
    else
      match bracket rest with
      | .ok (_, rest) => hasBareClass fuel rest
      | .error _ => false
  | fuel + 1, _ :: rest => hasBareClass fuel rest

structure Parsed where
  regex : Regex
  groups : Nat
  misplaced : List String

def parse (d : Dialect) (s : Octets) : Except Fault Parsed := do
  let (r, reading) ← (alternatives d (4 * s.length + 8)).run { rest := s }
  return ⟨r, reading.groups, reading.misplaced.reverse⟩

end DeployForge.Shell.Regex
