import DeployForge.Shell.Awk.Token

namespace DeployForge.Shell.Awk

structure Source where
  rest : List Char
  token : Token := .newline
  here : List Char := []
  line : Nat := 1
  nextLine : Nat := 1
  names : Array Octets := (usualNames.map String.toList).toArray
  functions : Array Function := #[]
  calls : List (Nat × Nat × Nat) := []
  parameters : List Octets := []
  isFunction : Bool := false
  isMain : Bool := false
  loops : Nat := 0

abbrev Read := StateT Source (Except (Nat × SourceFault))

namespace Read

def fail {α : Type} (f : SourceFault) : Read α := do throw ((← get).line, f)

def advance : Read Unit := do
  let s ← get
  let (skipped, here) := skipBlanks (s.rest.length + 1) 0 s.rest
  match nextToken here with
  | .error f => throw (s.nextLine + skipped, f)
  | .ok (token, lines, rest) =>
    let line := s.nextLine + skipped
    set { s with token, here, rest, line, nextLine := line + lines }

def wrong {α : Type} : Read α := do
  match (← get).token with
  | .newline => fail .nearEnd
  | .finish => fail .missingBrace
  | t => fail (.near ((t.shown?).getD []))

def isSign (s : String) : Read Bool := do return (← get).token.isSign s

def isWord (s : String) : Read Bool := do return (← get).token.isWord s

def expect (s : String) : Read Unit := do
  if ← isSign s then advance else wrong

def isNewline : Read Bool := do
  match (← get).token with
  | .newline => return true
  | _ => return false

def skipNewlines : Nat → Read Unit
  | 0 => pure ()
  | fuel + 1 => do
    if ← isNewline then
      advance
      skipNewlines fuel

def eatLines : Read Unit := do skipNewlines (((← get).rest.length) + 1)

def resolve (s : Octets) : Read Name := do
  let r ← get
  match r.parameters.findIdx? (· = s) with
  | some i => return .own i
  | none =>
    match r.names.findIdx? (· = s) with
    | some i => return .global i
    | none =>
      set { r with names := r.names.push s }
      return .global r.names.size

def functionOf (s : Octets) : Read Nat := do
  let r ← get
  match r.functions.findIdx? (·.name = s) with
  | some i => return i
  | none =>
    set { r with functions := r.functions.push { name := s } }
    return r.functions.size

def isAtEnd : Read Bool := do
  match (← get).token with
  | .newline | .finish => return true
  | t => return t.isSign ";" || t.isSign "\x7d"

def terminator : Read Unit := do
  match (← get).token with
  | .newline => eatLines
  | .finish => pure ()
  | t =>
    if t.isSign ";" then
      advance
      eatLines
    else if !t.isSign "\x7d" then wrong

end Read

open Read

def joining? (level : Nat) (comparesMore : Bool) (t : Token) : Option (Expr → Expr → Expr) :=
  match t with
  | .sign s =>
    match level, s with
    | 0, "||" => some .either
    | 1, "&&" => some .both
    | 3, "~" => some (.matches_ false)
    | 3, "!~" => some (.matches_ true)
    | 4, "<" => some (.compare .less)
    | 4, "<=" => some (.compare .atMost)
    | 4, "==" => some (.compare .equal)
    | 4, "!=" => some (.compare .differs)
    | 4, ">=" => if comparesMore then some (.compare .atLeast) else none
    | 4, ">" => if comparesMore then some (.compare .more) else none
    | 6, "+" => some (.arithmetic .add)
    | 6, "-" => some (.arithmetic .sub)
    | 7, "*" => some (.arithmetic .mul)
    | 7, "/" => some (.arithmetic .div)
    | 7, "%" => some (.arithmetic .rem)
    | _, _ => none
  | _ => none

def assigning? (t : Token) : Option (Option Operator) :=
  match t with
  | .sign "=" => some none
  | .sign "+=" => some (some .add)
  | .sign "-=" => some (some .sub)
  | .sign "*=" => some (some .mul)
  | .sign "/=" => some (some .div)
  | .sign "%=" => some (some .rem)
  | .sign "^=" => some (some .pow)
  | _ => none

def regexLiteral : Read Expr := do
  let s ← get
  let inner := s.here.drop 1
  match regexWithin (inner.length + 1) false [] inner with
  | none => fail (.openRegex (inner.takeWhile (· ≠ '\n')))
  | some (text, rest) =>
    match pattern text with
    | .error fault => fail (.badRegex text fault)
    | .ok r =>
      set { s with rest, nextLine := s.line }
      advance
      return .regex r

mutual

/-- An expression. The flag says whether `>` compares, and does not lead to a file. -/
def expression (gt : Bool) : Nat → Read Expr
  | 0 => wrong
  | fuel + 1 => do
    let e ← choice gt fuel
    match assigning? (← get).token with
    | none => return e
    | some op =>
      if !e.isPlace then wrong
      advance
      eatLines
      return .assign op e (← expression gt fuel)

def choice (gt : Bool) : Nat → Read Expr
  | 0 => wrong
  | fuel + 1 => do
    let test ← operand gt 0 fuel
    if !(← isSign "?") then return test
    advance
    eatLines
    let a ← expression gt fuel
    eatLines
    expect ":"
    eatLines
    return .choice test a (← expression gt fuel)

def operand (gt : Bool) (level : Nat) : Nat → Read Expr
  | 0 => wrong
  | fuel + 1 => do
    if level = 8 then unary gt fuel
    else
      let a ← operand gt (level + 1) fuel
      further gt level a fuel

def further (gt : Bool) (level : Nat) (a : Expr) : Nat → Read Expr
  | 0 => return a
  | fuel + 1 => do
    let t := (← get).token
    if level = 2 then
      if !t.isWord "in" then return a
      advance
      match (← get).token with
      | .name s =>
        let n ← resolve s
        advance
        let e ← further gt 4 (.isIn [a] n) fuel
        further gt level (← further gt 3 e fuel) fuel
      | _ => wrong
    else if level = 5 then
      if !t.beginsOperand then return a
      let b ← operand gt 6 fuel
      further gt level (.joined a b) fuel
    else
      match joining? level gt t with
      | none => return a
      | some join =>
        advance
        if level < 2 then eatLines
        let b ← operand gt (level + 1) fuel
        further gt level (join a b) fuel

def unary (gt : Bool) : Nat → Read Expr
  | 0 => wrong
  | fuel + 1 => do
    if ← isSign "!" then
      advance
      return .not (← unary gt fuel)
    if ← isSign "-" then
      advance
      return .negative (← unary gt fuel)
    if ← isSign "+" then
      advance
      return .positive (← unary gt fuel)
    let e ← power fuel
    if gt then piped e fuel else return e

def piped (e : Expr) : Nat → Read Expr
  | 0 => return e
  | fuel + 1 => do
    if !(← isSign "|") then return e
    advance
    if !(← isWord "getline") then wrong
    advance
    let place ← optionalPlace fuel
    piped (.readCommand place e) fuel

def power : Nat → Read Expr
  | 0 => wrong
  | fuel + 1 => do
    let a ← changed fuel
    if !(← isSign "^") then return a
    advance
    return .arithmetic .pow a (← exponent fuel)

def exponent : Nat → Read Expr
  | 0 => wrong
  | fuel + 1 => do
    if ← isSign "-" then
      advance
      return .negative (← exponent fuel)
    if ← isSign "+" then
      advance
      return .positive (← exponent fuel)
    if ← isSign "!" then
      advance
      return .not (← exponent fuel)
    power fuel

def changed : Nat → Read Expr
  | 0 => wrong
  | fuel + 1 => do
    let e ← primary fuel
    if e.isPlace then
      if ← isSign "++" then
        advance
        return .step false true e
      if ← isSign "--" then
        advance
        return .step false false e
    return e

def expressions (gt : Bool) : Nat → Read (List Expr)
  | 0 => wrong
  | fuel + 1 => do
    let e ← expression gt fuel
    if !(← isSign ",") then return [e]
    advance
    eatLines
    return e :: (← expressions gt fuel)

def arguments : Nat → Read (List Expr)
  | 0 => wrong
  | fuel + 1 => do
    expect "("
    eatLines
    if ← isSign ")" then
      advance
      return []
    let es ← expressions true fuel
    eatLines
    expect ")"
    return es

def named (s : Octets) : Nat → Read Expr
  | 0 => wrong
  | fuel + 1 => do
    advance
    let n ← resolve s
    if !(← isSign "[") then return .variable_ n
    advance
    let es ← expressions true fuel
    expect "]"
    return .element n es

def fieldOf : Nat → Read Expr
  | 0 => wrong
  | fuel + 1 => do
    expect "$"
    if ← isSign "-" then
      advance
      return .field (.negative (← primary fuel))
    if ← isSign "+" then
      advance
      return .field (.positive (← primary fuel))
    if ← isSign "!" then
      advance
      return .field (.not (← primary fuel))
    return .field (← primary fuel)

def optionalPlace : Nat → Read (Option Expr)
  | 0 => wrong
  | fuel + 1 => do
    match (← get).token with
    | .name s => return some (← named s fuel)
    | .sign "$" => return some (← fieldOf fuel)
    | _ => return none

def stepped (isUp : Bool) : Nat → Read Expr
  | 0 => wrong
  | fuel + 1 => do
    advance
    match ← optionalPlace fuel with
    | some e => return .step true isUp e
    | none => wrong

def primary : Nat → Read Expr
  | 0 => wrong
  | fuel + 1 => do
    match (← get).token with
    | .number x =>
      advance
      return .number x
    | .text s =>
      advance
      return .text s
    | .name s => named s fuel
    | .callee s =>
      let line := (← get).line
      advance
      let f ← functionOf s
      let args ← arguments fuel
      modify fun r => { r with calls := (f, args.length, line) :: r.calls }
      return .call f args
    | .builtin b =>
      let shown := ((← get).token.shown?).getD []
      advance
      if b = .length then
        if !(← isSign "(") then return .builtin b []
        advance
        let args ← if ← isSign ")" then pure [] else do pure [← expression true fuel]
        expect ")"
        return .builtin b args
      let args ← arguments fuel
      let (least, most) := b.arity
      if args.length < least || most < args.length then fail (.wrongCount shown)
      return .builtin b args
    | .word "getline" =>
      advance
      let place ← optionalPlace fuel
      if !(← isSign "<") then return .read place
      advance
      return .readFile place (← power fuel)
    | .sign "/" | .sign "/=" => regexLiteral
    | .sign "$" => fieldOf fuel
    | .sign "++" => stepped true fuel
    | .sign "--" => stepped false fuel
    | .sign "!" =>
      advance
      return .not (← primary fuel)
    | .sign "-" =>
      advance
      return .negative (← primary fuel)
    | .sign "(" =>
      advance
      eatLines
      let es ← expressions true fuel
      eatLines
      expect ")"
      match es with
      | [e] => return e
      | _ =>
        if !(← isWord "in") then return .list es
        advance
        match (← get).token with
        | .name s =>
          let n ← resolve s
          advance
          return .isIn es n
        | _ => wrong
    | _ => wrong

end

def roomFor (s : Source) : Nat := 32 * (s.here.length + 8)

def wholeExpression (gt : Bool := true) : Read Expr := do expression gt (roomFor (← get))

def redirection : Read (Option Output) := do
  match (← get).token with
  | .sign ">" =>
    advance
    return some (.file (← wholeExpression false))
  | .sign ">>" =>
    advance
    return some (.append (← wholeExpression false))
  | .sign "|" =>
    advance
    return some (.pipe (← wholeExpression false))
  | .sign ">=" => fail (.near ['='])
  | _ => return none

def printed : Read (List Expr × Option Output) := do
  let t := (← get).token
  let isBare := (← isAtEnd) || t.isSign ">" || t.isSign ">>" || t.isSign "|"
  let es ← if isBare then pure [] else expressions false (roomFor (← get))
  let es := match es with
    | [.list es] => es
    | _ => es
  return (es, ← redirection)

def forKeys? : Read (Option (Expr × Name)) := do
  let before ← get
  match before.token with
  | .name s =>
    let place ← named s (roomFor before)
    if !(← isWord "in") then
      set before
      return none
    advance
    match (← get).token with
    | .name array =>
      let n ← resolve array
      advance
      if ← isSign ")" then
        advance
        return some (place, n)
      set before
      return none
    | _ =>
      set before
      return none
  | _ => return none

def inLoop {α : Type} (work : Read α) : Read α := do
  modify fun s => { s with loops := s.loops + 1 }
  let result ← work
  modify fun s => { s with loops := s.loops - 1 }
  return result

def leaving (word : String) (result : Statement) : Read Statement := do
  if (← get).loops = 0 then fail (.outsideLoop word)
  advance
  terminator
  return result

def optionalExpression : Read (Option Expr) := do
  if ← isAtEnd then return none else return some (← wholeExpression)

def simple : Read Statement := do
  match (← get).token with
  | .word "print" =>
    advance
    let (es, to_) ← printed
    return .print es to_
  | .word "printf" =>
    advance
    let (es, to_) ← printed
    if es.isEmpty then fail .noArguments
    return .printf es to_
  | .word "delete" =>
    advance
    match (← get).token with
    | .name s =>
      match ← named s (roomFor (← get)) with
      | .element n indices => return .delete n indices
      | .variable_ n => return .deleteAll n
      | _ => wrong
    | _ => wrong
  | _ => return .expr (← wholeExpression)

mutual

def statement : Nat → Read Statement
  | 0 => wrong
  | fuel + 1 => do
    match (← get).token with
    | .sign "\x7b" => block fuel
    | .sign ";" =>
      advance
      eatLines
      return .block []
    | .word "if" =>
      advance
      let test ← condition
      let a ← statement fuel
      if !(← isWord "else") then return .choice test a (.block [])
      advance
      eatLines
      return .choice test a (← statement fuel)
    | .word "while" =>
      advance
      let test ← condition
      return .whileLoop test (← inLoop (statement fuel))
    | .word "do" =>
      advance
      eatLines
      let body ← inLoop (statement fuel)
      if !(← isWord "while") then wrong
      advance
      expect "("
      let test ← wholeExpression
      expect ")"
      terminator
      return .doLoop body test
    | .word "for" =>
      advance
      expect "("
      match ← forKeys? with
      | some (place, n) =>
        eatLines
        return .forIn place n (← inLoop (statement fuel))
      | none =>
        let start ← if ← isSign ";" then pure (.block []) else simple
        expect ";"
        eatLines
        let test ← if ← isSign ";" then pure none else some <$> wholeExpression
        expect ";"
        eatLines
        let step ← if ← isSign ")" then pure (.block []) else simple
        expect ")"
        eatLines
        return .forLoop start test step (← inLoop (statement fuel))
    | .word "break" => leaving "break" .break_
    | .word "continue" => leaving "continue" .continue_
    | .word "next" => skipping "next" .next
    | .word "nextfile" => skipping "nextfile" .nextFile
    | .word "exit" =>
      advance
      let e ← optionalExpression
      terminator
      return .exit e
    | .word "return" =>
      if !(← get).isFunction then fail .outsideFunction
      advance
      let e ← optionalExpression
      terminator
      return .return_ e
    | _ =>
      let s ← simple
      terminator
      return s
where
  condition : Read Expr := do
    expect "("
    let test ← wholeExpression
    expect ")"
    eatLines
    return test
  skipping (word : String) (result : Statement) : Read Statement := do
    let s ← get
    if !s.isMain && !s.isFunction then fail (.misplaced word)
    advance
    terminator
    return result

def block : Nat → Read Statement
  | 0 => wrong
  | fuel + 1 => do
    expect "\x7b"
    eatLines
    let ss ← statements fuel
    expect "\x7d"
    eatLines
    return .block ss

def statements : Nat → Read (List Statement)
  | 0 => wrong
  | fuel + 1 => do
    if ← isSign "\x7d" then return []
    match (← get).token with
    | .finish => fail .missingBrace
    | _ =>
      let s ← statement fuel
      return s :: (← statements fuel)

end

def wholeBlock : Read Statement := do block (roomFor (← get))

def parameters : Nat → Read (List Octets)
  | 0 => wrong
  | fuel + 1 => do
    match (← get).token with
    | .name s =>
      advance
      if !(← isSign ",") then return [s]
      advance
      eatLines
      return s :: (← parameters fuel)
    | _ => return []

def functionDefinition : Read Unit := do
  advance
  let name ← match (← get).token with
    | .name s | .callee s => pure s
    | _ => wrong
  let f ← functionOf name
  advance
  expect "("
  let ps ← parameters ((← get).rest.length + 1)
  expect ")"
  eatLines
  modify fun s => { s with parameters := ps, isFunction := true }
  let body ← wholeBlock
  modify fun s => { s with
    parameters := []
    isFunction := false
    functions := s.functions.setIfInBounds f { name, arity := some ps.length, body } }

def rule : Read Rule := do
  modify fun s => { s with isMain := true }
  let condition : Condition ← if ← isSign "\x7b" then pure .always
    else do
      let first ← wholeExpression
      if ← isSign "," then do
        advance
        eatLines
        pure (.between first (← wholeExpression))
      else pure (.holds first)
  let action ← if ← isSign "\x7b" then wholeBlock
    else do
      if !(← isAtEnd) then wrong
      pure (.print [] none)
  modify fun s => { s with isMain := false }
  return { condition, action }

def items : Nat → Program → Read Program
  | 0, p => return p
  | fuel + 1, p => do
    eatLines
    match (← get).token with
    | .finish => return p
    | .word "BEGIN" =>
      advance
      let body ← wholeBlock
      between
      items fuel { p with begins := p.begins ++ [body] }
    | .word "END" =>
      advance
      let body ← wholeBlock
      between
      items fuel { p with ends := p.ends ++ [body] }
    | .word "function" =>
      functionDefinition
      between
      items fuel p
    | .sign "\x7d" => fail .extraBrace
    | _ =>
      let r ← rule
      between
      items fuel { p with rules := p.rules ++ [r] }
where
  between : Read Unit := do
    if ← isSign ";" then advance

def checkCalls : Read Unit := do
  let s ← get
  for (f, n, line) in s.calls.reverse do
    match s.functions[f]? with
    | some { name, arity := none, .. } => fail (.neverDefined name)
    | some { name, arity := some most, .. } => if most < n then throw (line, .tooMany name)
    | none => pure ()

def wholeProgram : Read Program := do
  advance
  let p ← items ((← get).rest.length + 2) {}
  checkCalls
  let s ← get
  return { p with functions := s.functions, names := s.names }

def read (text : Octets) : Except (Nat × SourceFault) Program := do
  let text := if text.getLast? = some '\n' then text else text ++ ['\n']
  return (← wholeProgram.run { rest := text }).1

end DeployForge.Shell.Awk
