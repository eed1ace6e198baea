import DeployForge.Shell.Edit.Escaping

namespace DeployForge.Shell.Edit

inductive Origin where
  | expression
  | file (name : Octets)
  deriving DecidableEq, Repr

structure Place where
  origin : Origin := .expression
  number : Nat := 0
  count : Nat := 0
  line : Nat := 1
  deriving DecidableEq, Repr

def Place.text (p : Place) : Octets :=
  match p.origin with
  | .expression =>
    "-e expression #".toList ++ Octets.ofNat p.number ++ ", char ".toList ++ Octets.ofNat p.count
  | .file name => "file ".toList ++ name ++ " line ".toList ++ Octets.ofNat p.line

structure Rules where
  extended : Bool := false
  isStrict : Bool := false
  isConfined : Bool := false
  deriving DecidableEq, Repr

structure Reader where
  rest : List Char := []
  place : Place := {}
  parts : List (Origin × Octets) := []
  steps : Array Step := #[]
  labels : List (Octets × Nat) := []
  blocks : List (Nat × Place) := []
  isQuiet : Bool := false

structure Failure where
  place : Option Place
  fault : Fault

abbrev Read := StateT Reader (Except Failure)

def fail {α : Type} (f : Fault) : Read α := do throw ⟨some (← get).place, f⟩

def lift {α : Type} (r : Except Fault α) : Read α :=
  match r with
  | .ok a => return a
  | .error f => fail f

def next : Read (Option Char) := do
  let r ← get
  match r.rest with
  | [] => return none
  | c :: rest =>
    let place := { r.place with
      count := r.place.count + 1
      line := if c = '\n' then r.place.line + 1 else r.place.line }
    set { r with rest, place }
    return some c

def back : Option Char → Read Unit
  | none => return ()
  | some c =>
    modify fun r => { r with
      rest := c :: r.rest
      place := { r.place with
        count := r.place.count - 1
        line := if c = '\n' then r.place.line - 1 else r.place.line } }

def skipWhile (test : Char → Bool) : Nat → Read (Option Char)
  | 0 => return none
  | fuel + 1 => do
    match ← next with
    | some c => if test c then skipWhile test fuel else return some c
    | none => return none

def takeWhile (test : Char → Bool) : Nat → Read Octets
  | 0 => return []
  | fuel + 1 => do
    match ← next with
    | some c =>
      if test c then return c :: (← takeWhile test fuel)
      else
        back (some c)
        return []
    | none => return []

def size : Read Nat := return (← get).rest.length + 1

def nextShown : Read (Option Char) := do skipWhile isBlank (← size)

def number (c : Option Char) : Read Nat := do
  back c
  return Octets.nat (← takeWhile Char.isDigit (← size))

def endCommand : Read Unit := do
  match ← nextShown with
  | none | some '\n' | some ';' => return ()
  | some c => if c = '\x7d' || c = '#' then back (some c) else fail .excess

def setMembers : Nat → Option Char → Option Char → Bool → Octets → Read (Octets × Option Char)
  | 0, c, _, _, s => return (s, c)
  | fuel + 1, c, mark, isOpen, s => do
    match c with
    | none | some '\n' => return (s, c)
    | some c =>
      let go (mark : Option Char) (isOpen : Bool) : Read (Octets × Option Char) := do
        setMembers fuel (← next) mark isOpen (s ++ [c])
      match mark with
      | some m =>
        if c = m then
          match ← next with
          | some ']' => setMembers fuel (← next) none false (s ++ [c, ']'])
          | d => setMembers fuel d mark false (s ++ [c])
        else go mark false
      | none =>
        if c = ']' then return (s, some c)
        else if isOpen && (c = '.' || c = ':' || c = '=') then go (some c) false
        else go none (c = '[')

def bracket : Read (Octets × Option Char) := do
  let mut s := ['[']
  let mut c ← next
  if c = some '^' then
    s := s ++ ['^']
    c ← next
  if c = some ']' then
    s := s ++ [']']
    c ← next
  setMembers (← size) c none false s

def delimited (mark : Char) (isRegex : Bool) : Nat → Octets → Read (Option Octets)
  | 0, _ => return none
  | fuel + 1, done => do
    match ← next with
    | none => return none
    | some '\n' =>
      back (some '\n')
      return none
    | some c =>
      if c = mark then return some done.reverse
      else if c = '\\' then
        match ← next with
        | none => return none
        | some 'n' =>
          if isRegex then delimited mark isRegex fuel ('\n' :: done)
          else if mark = 'n' then delimited mark isRegex fuel ('n' :: done)
          else delimited mark isRegex fuel ('n' :: '\\' :: done)
        | some d =>
          if d = '\n' || d = mark && (isRegex || d ≠ '&') then
            delimited mark isRegex fuel (d :: done)
          else delimited mark isRegex fuel (d :: '\\' :: done)
      else if c = '[' && isRegex then
        let (s, last) ← bracket
        match last with
        | some ']' => delimited mark isRegex fuel (']' :: s.reverse ++ done)
        | some '\n' =>
          back (some '\n')
          return none
        | _ => return none
      else delimited mark isRegex fuel (c :: done)

def part (mark : Char) (isRegex : Bool) (f : Fault) : Read Octets := do
  match ← delimited mark isRegex (← size) [] with
  | some s => return s
  | none => fail f

def finder (rules : Rules) (s : Octets) (folds hasLines : Bool) : Read (Option Finder) := do
  if s.isEmpty then
    if folds || hasLines then fail .emptyWithFlags
    return none
  let text ← lift (regexText (s.length + 1) s)
  if Regex.hasBareClass (text.length + 1) text then throw ⟨none, .regex .badClass⟩
  match Regex.parse { extended := rules.extended } text with
  | .ok parsed =>
    let regex := if hasLines then parsed.regex.sparing '\n' else parsed.regex
    return some { regex, groups := parsed.groups, folds, hasLines }
  | .error f => fail (.regex f)

def addressFlags (rules : Rules) : Nat → Bool → Bool → Read (Bool × Bool)
  | 0, folds, hasLines => return (folds, hasLines)
  | fuel + 1, folds, hasLines => do
    match rules.isStrict, ← nextShown with
    | false, some 'I' => addressFlags rules fuel true hasLines
    | false, some 'M' => addressFlags rules fuel folds true
    | _, c =>
      back c
      return (folds, hasLines)

def address? (rules : Rules) (c : Option Char) : Read (Option Address) := do
  match c with
  | some '/' | some '\\' =>
    let mark ← if c = some '\\' then next else pure c
    match mark with
    | none => fail .unclosedAddress
    | some mark =>
      let s ← part mark true .unclosedAddress
      let (folds, hasLines) ← addressFlags rules (← size) false false
      return some (.found (← finder rules s folds hasLines))
  | some '$' => return some .last
  | some c =>
    if c.isDigit then
      let n ← number (some c)
      match ← nextShown with
      | some '~' =>
        let by_ ← number (← nextShown)
        return some (if by_ = 0 then .line n else .step n by_)
      | d =>
        back d
        return some (.line n)
    else if c = '+' then return some (.lines (← number (← nextShown)))
    else if c = '~' then return some (.multiple (← number (← nextShown)))
    else return none
  | none => return none

def addresses (rules : Rules) (c : Option Char) :
    Read (Option Address × Option Address × Option Char) := do
  match ← address? rules c with
  | none => return (none, none, c)
  | some first =>
    match first with
    | .lines _ | .multiple _ => fail .badFirstAddress
    | _ => pure ()
    let mut c ← nextShown
    let mut second := none
    if c = some ',' then
      second ← address? rules (← nextShown)
      if second.isNone then fail .badComma
      c ← nextShown
    match first, second with
    | .line 0, some (.found _) => pure ()
    | .line 0, _ => fail .lineZero
    | _, _ => pure ()
    return (some first, second, c)

def nextPart : Read Bool := do
  let r ← get
  match r.parts with
  | [] => return false
  | (origin, text) :: parts =>
    let number := match origin with
      | .expression => r.place.number + 1
      | .file _ => r.place.number
    set { r with rest := text, parts, place := { origin, number } }
    return true

/-- A text up to the end of a line. A line end behind a backslash belongs to it, also where a part
of the script ends. -/
def lineText : Nat → Octets → Read Octets
  | 0, done => return done.reverse
  | fuel + 1, done => do
    match ← next with
    | none | some '\n' => return done.reverse
    | some '\\' =>
      match ← next with
      | some c => lineText fuel (c :: '\\' :: done)
      | none => if ← nextPart then lineText fuel ('\n' :: done) else return done.reverse
    | some c => lineText fuel (c :: done)

def sizeOfAll : Read Nat := do
  let r ← get
  return r.rest.length + sumOf (r.parts.map (·.2.length + 1)) + 1

def text (rules : Rules) : Read Octets := do
  let finish : Read Octets := do
    let s ← lineText (← sizeOfAll) []
    return (← lift (plainText (s.length + 2) (s ++ ['\n'])))
  match ← nextShown with
  | none => fail .noText
  | some '\\' =>
    match ← next with
    | none => if ← nextPart then finish else return []
    | some '\n' => finish
    | some c =>
      back (some c)
      finish
  | some c =>
    if rules.isStrict then fail .noText
    back (some c)
    finish

def fileName (rules : Rules) : Read Octets := do
  if rules.isConfined then fail .forbidden
  let c ← nextShown
  back c
  let s ← takeWhile (· ≠ '\n') (← size)
  discard next
  if s.isEmpty then fail .noFileName
  return s

def label : Read Octets := do
  let c ← nextShown
  back c
  let s ← takeWhile (fun c => !isSpace c && c ≠ ';' && c ≠ '\x7d') (← size)
  return s

def flags (rules : Rules) : Nat → Substitution → Bool → Bool → Read (Substitution × Bool × Bool)
  | 0, s, folds, hasLines => return (s, folds, hasLines)
  | fuel + 1, s, folds, hasLines => do
    match ← next with
    | none | some '\n' | some ';' => return (s, folds, hasLines)
    | some c =>
      match c with
      | 'i' | 'I' => flags rules fuel s true hasLines
      | 'm' | 'M' => flags rules fuel s folds true
      | 'e' =>
        if rules.isConfined then fail .forbidden
        flags rules fuel { s with runs := true } folds hasLines
      | 'p' =>
        if s.shows || s.showsBefore then fail .manyShows
        let s := if s.runs then { s with shows := true } else { s with showsBefore := true }
        flags rules fuel s folds hasLines
      | 'g' =>
        if s.isGlobal then fail .manyGlobals
        flags rules fuel { s with isGlobal := true } folds hasLines
      | 'w' => return ({ s with file := some (← fileName rules) }, folds, hasLines)
      | '\x7d' | '#' =>
        back (some c)
        return (s, folds, hasLines)
      | ' ' => flags rules fuel s folds hasLines
      | '\r' =>
        if (← next) = some '\n' then return (s, folds, hasLines)
        fail .unknownFlag
      | _ =>
        if c.isDigit then
          if s.number ≠ 0 then fail .manyNumbers
          let n ← number (some c)
          if n = 0 then fail .zeroNumber
          flags rules fuel { s with number := n } folds hasLines
        else fail .unknownFlag

def substitution (rules : Rules) : Read Substitution := do
  match ← next with
  | none => fail .unclosedSubstitution
  | some mark =>
    let pattern ← part mark true .unclosedSubstitution
    let replacement ← part mark false .unclosedSubstitution
    let portions ← lift (portions (replacement.length + 1) replacement [] {} {})
    let (s, folds, hasLines) ← flags rules (← size) { portions } false false
    let finder ← finder rules pattern folds hasLines
    let highest := (portions.filterMap (·.group)).foldl max 0
    match finder with
    | some f => if f.groups < highest then fail (.badReference highest)
    | none => pure ()
    let s := if s.showsBefore && !s.runs then { s with showsBefore := false, shows := true } else s
    return { s with finder }

def exchange : Read (List (Char × Char)) := do
  match ← next with
  | none => fail .unclosedExchange
  | some mark =>
    let a ← part mark false .unclosedExchange
    let b ← part mark false .unclosedExchange
    let a ← lift (plainText (a.length + 1) a)
    let b ← lift (plainText (b.length + 1) b)
    if a.length ≠ b.length then fail .unequalLengths
    endCommand
    return a.zip b

def argument : Read (Option Nat) := do
  let c ← nextShown
  if c.any Char.isDigit then
    let n ← number c
    endCommand
    return some n
  else
    back c
    endCommand
    return none

def addStep (s : Step) : Read Unit := modify fun r => { r with steps := r.steps.push s }

def isKnownVersion (s : Octets) : Bool :=
  let numbers := (Text.splitAt '.' s).map Octets.nat
  !List.lex [4, 9, 0] ((numbers ++ [0, 0]).take 3) (· < ·)

def comment : Read Unit := do
  let r ← get
  let isStart := r.place.count = 1 && r.steps.isEmpty && r.place.number ≤ 1
  let s ← takeWhile (· ≠ '\n') (← size)
  if isStart && s.head? = some 'n' then modify fun r => { r with isQuiet := true }

def closeBlock (hasAddress : Bool) : Read Unit := do
  match (← get).blocks with
  | [] => fail .unopenedBlock
  | (opening, _) :: blocks =>
    if hasAddress then fail .blockEndAddress
    endCommand
    modify fun r => { r with
      blocks
      steps := r.steps.modify opening fun s => { s with action := .block r.steps.size } }

def action (rules : Rules) (c : Char) (hasSecond : Bool) : Read Action := do
  let simple (a : Action) : Read Action := do
    endCommand
    return a
  match c with
  | 'a' => return .append (← text rules)
  | 'i' => return .insert (← text rules)
  | 'c' => return .change (← text rules)
  | 'd' => simple .delete
  | 'D' => simple .deleteLine
  | 'e' =>
    if rules.isConfined then fail .forbidden
    let c ← nextShown
    back c
    let s ← lineText (← sizeOfAll) []
    return .run (← lift (plainText (s.length + 1) s))
  | 'F' => simple .fileName
  | 'g' => simple .copyFromHold
  | 'G' => simple .appendFromHold
  | 'h' => simple .copyToHold
  | 'H' => simple .appendToHold
  | 'x' => simple .exchange
  | 'l' => return .show_ (← argument)
  | 'L' => return .unusable c
  | 'n' => simple .next
  | 'N' => simple .appendNext
  | 'p' => simple .print
  | 'P' => simple .printLine
  | '=' => simple .number
  | 'q' | 'Q' =>
    if hasSecond then fail .oneAddress
    let status := (← argument).getD 0
    return if c = 'q' then .quit status else .leave status
  | 'r' => return .readFile (← fileName rules)
  | 'R' => return .readLine (← fileName rules)
  | 'w' => return .writeFile (← fileName rules)
  | 'W' => return .writeLine (← fileName rules)
  | 's' => return .substitute (← substitution rules)
  | 'y' => return .exchangeChars (← exchange)
  | 'z' => simple .clear
  | 'b' => return .jump .always (← label)
  | 't' => return .jump .changed (← label)
  | 'T' => return .jump .unchanged (← label)
  | _ => fail (.unknownCommand c)

def step (rules : Rules) (c : Char) : Read Unit := do
  let (first, second, c) ← addresses rules (some c)
  let negated := c = some '!'
  let c ← if negated then nextShown else pure c
  if negated && c = some '!' then fail .manyNegations
  match c with
  | none => fail .noCommand
  | some '#' =>
    if first.isSome then fail .commentAddress
    comment
  | some 'v' => if !isKnownVersion (← label) then fail .newerVersion
  | some '\x7b' =>
    let r ← get
    set { r with blocks := (r.steps.size, r.place) :: r.blocks }
    addStep { first, second, negated, action := .block 0 }
  | some '\x7d' => closeBlock first.isSome
  | some ':' =>
    if first.isSome then fail .labelAddress
    let s ← label
    if s.isEmpty then fail .noLabel
    modify fun r => { r with labels := r.labels ++ [(s, r.steps.size)] }
  | some c => addStep { first, second, negated, action := ← action rules c second.isSome }

def commands (rules : Rules) : Nat → Read Unit
  | 0 => return ()
  | fuel + 1 => do
    match ← skipWhile (fun c => isSpace c || c = ';') (← size) with
    | some c =>
      step rules c
      commands rules fuel
    | none => if ← nextPart then commands rules fuel else return ()

def script (rules : Rules) (parts : List (Origin × Octets)) : Except Failure Script := do
  let fuel := sumOf (parts.map (·.2.length + 1)) + 1
  let ((), r) ← (commands rules fuel).run { parts }
  match r.blocks with
  | (_, place) :: _ => throw ⟨some { place with count := 0 }, .unclosedBlock⟩
  | [] => return { steps := r.steps, labels := r.labels, isQuiet := r.isQuiet }

end DeployForge.Shell.Edit
