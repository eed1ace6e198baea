import DeployForge.Shell.Octets

/-! Arithmetic on whole numbers of 64 bits, as it stands between `$((` and `))`. -/

namespace DeployForge.Shell.Arithmetic

inductive Fault where
  | wanted (what : String)
  | divisionByZero
  | illegal (s : Octets)
  deriving DecidableEq, Repr

inductive Token where
  | number (n : Int)
  | name (s : Octets)
  | operator (s : String)
  | malformed
  | finish
  deriving DecidableEq, Repr

def smallest : Int := -9223372036854775808

def largest : Int := 9223372036854775807

def clamp (n : Int) : Int := max smallest (min largest n)

def wrap (n : Int) : Int := Int.bmod n 18446744073709551616

def unsigned (s : List Char) : Nat × List Char :=
  let decimal (base : Nat) (test : Char → Bool) (s : List Char) : Nat × List Char :=
    let ds := s.takeWhile test
    (Octets.foldDigits base ds, s.drop ds.length)
  match s with
  | '0' :: x :: d :: rest =>
    if (x = 'x' || x = 'X') && isHexDigit d then decimal 16 isHexDigit (d :: rest)
    else decimal 8 isOctal s
  | '0' :: _ => decimal 8 isOctal s
  | _ => decimal 10 Char.isDigit s

def signed (s : List Char) : Int × List Char × Bool :=
  let s := s.dropWhile isSpace
  let (isNegative, t) := match s with
    | '-' :: rest => (true, rest)
    | '+' :: rest => (false, rest)
    | _ => (false, s)
  if (t.head?.map Char.isDigit).getD false then
    let (n, rest) := unsigned t
    (if isNegative then -(n : Int) else n, rest, true)
  else (0, s, false)

def value? (s : Octets) : Except Fault Int :=
  let (n, rest, _) := signed s
  if (rest.dropWhile isSpace).isEmpty && smallest ≤ n && n ≤ largest then .ok n
  else .error (.illegal s)

def truth (b : Bool) : Int := if b then 1 else 0

/-- Operators between two operands, each with a number that is small where it binds tightly. -/
def operators : List (String × Nat) := [
  ("*", 0), ("/", 0), ("%", 0), ("+", 1), ("-", 1), ("<<", 2), (">>", 2), ("<", 3), ("<=", 3),
  (">", 3), (">=", 3), ("==", 4), ("!=", 4), ("&", 5), ("^", 6), ("|", 7)]

def bits (f : BitVec 64 → BitVec 64 → BitVec 64) (a b : Int) : Int :=
  (f (.ofInt 64 a) (.ofInt 64 b)).toInt

def apply (operator : String) (a b : Int) : Except Fault Int :=
  match operator with
  | "<<" => .ok (bits (fun x y => x <<< (y.toNat % 64)) a b)
  | ">>" => .ok (bits (fun x y => x.sshiftRight (y.toNat % 64)) a b)
  | "==" => .ok (truth (a = b))
  | "!=" => .ok (truth (a ≠ b))
  | "<=" => .ok (truth (a ≤ b))
  | ">=" => .ok (truth (b ≤ a))
  | "<" => .ok (truth (a < b))
  | ">" => .ok (truth (b < a))
  | "|" => .ok (bits (· ||| ·) a b)
  | "^" => .ok (bits (· ^^^ ·) a b)
  | "&" => .ok (bits (· &&& ·) a b)
  | "+" => .ok (wrap (a + b))
  | "-" => .ok (wrap (a - b))
  | "*" => .ok (wrap (a * b))
  | "/" => if b = 0 then .error .divisionByZero else .ok (wrap (a.tdiv b))
  | _ => if b = 0 then .error .divisionByZero else .ok (wrap (a.tmod b))

def symbols : List String := [
  "<<=", ">>=", "<<", ">>", "<=", ">=", "==", "!=", "&&", "||", "+=", "-=", "*=", "/=", "%=",
  "&=", "^=", "|=", "=", "<", ">", "&", "|", "^", "+", "-", "*", "/", "%", "!", "~", "(", ")",
  "?", ":"]

def lex (s : List Char) : Token × List Char :=
  let s := s.dropWhile fun c => c = ' ' || c = '\t' || c = '\n'
  match s with
  | [] => (.finish, [])
  | c :: _ =>
    if c.isDigit then
      let (n, rest) := unsigned s
      (.number (clamp n), rest)
    else if isNameStart c then
      let name := s.takeWhile isNameChar
      (.name name, s.drop name.length)
    else
      match symbols.find? fun symbol => symbol.toList.isPrefixOf s with
      | some symbol => (.operator symbol, s.drop symbol.length)
      | none => (.malformed, s)

structure Place where
  rest : List Char
  last : Token := .finish
  /-- The values that variables get on the way, the latest first. -/
  bindings : List (Octets × Int) := []

abbrev Calculation := StateT Place (Except Fault)

def next : Calculation Token := modifyGet fun p =>
  let (t, rest) := lex p.rest
  (t, { p with rest, last := t })

def setLast (t : Token) : Calculation Unit := modify fun p => { p with last := t }

def last : Calculation Token := return (← get).last

section

variable (lookup : Octets → Option Octets)

def valueOf (name : Octets) : Calculation Int := do
  match (← get).bindings.lookup name with
  | some n => return n
  | none => (value? ((lookup name).getD []) : Except Fault Int)

mutual

/-- The operand that begins with a token, the one behind that given as well. A part that is
skipped has no value and no effect. -/
def primary (isSkipped : Bool) : Nat → Token → Token → Calculation Int
  | 0, _, _ => throw (.wanted "expecting primary")
  | fuel + 1, t, following => do
    match t with
    | .operator "(" =>
      let n ← assignment isSkipped fuel following
      if (← last) ≠ .operator ")" then throw (.wanted "expecting ')'")
      discard next
      return n
    | .number n =>
      setLast following
      return n
    | .name s =>
      setLast following
      if isSkipped then return 0 else valueOf lookup s
    | .operator "+" => primary isSkipped fuel following (← next)
    | .operator "-" => return wrap (-(← primary isSkipped fuel following (← next)))
    | .operator "!" => return truth ((← primary isSkipped fuel following (← next)) = 0)
    | .operator "~" => return -(← primary isSkipped fuel following (← next)) - 1
    | _ => throw (.wanted "expecting primary")

def operations (isSkipped : Bool) : Nat → Nat → Int → String → Calculation Int
  | 0, _, _, _ => throw (.wanted "expecting primary")
  | fuel + 1, level, a, operator => do
    let t ← next
    let b ← primary isSkipped fuel t (← next)
    let own := (operators.lookup operator).getD 0
    let b ← match ← last with
      | .operator s =>
        match operators.lookup s with
        | some n => if n < own then operations isSkipped fuel own b s else pure b
        | none => pure b
      | _ => pure b
    let a ← if isSkipped then pure b else (apply operator a b : Except Fault Int)
    match ← last with
    | .operator s =>
      match operators.lookup s with
      | some n => if n < level then operations isSkipped fuel level a s else return a
      | none => return a
    | _ => return a

def binary (isSkipped : Bool) : Nat → Token → Token → Calculation Int
  | 0, _, _ => throw (.wanted "expecting primary")
  | fuel + 1, t, following => do
    let a ← primary isSkipped fuel t following
    match ← last with
    | .operator s => if (operators.lookup s).isSome then operations isSkipped fuel 8 a s else return a
    | _ => return a

def both (isSkipped : Bool) : Nat → Token → Token → Calculation Int
  | 0, _, _ => throw (.wanted "expecting primary")
  | fuel + 1, t, following => do
    let a ← binary isSkipped fuel t following
    if (← last) ≠ .operator "&&" then return a
    let t ← next
    let b ← both (isSkipped || a = 0) fuel t (← next)
    return truth (a ≠ 0 && b ≠ 0)

def either (isSkipped : Bool) : Nat → Token → Token → Calculation Int
  | 0, _, _ => throw (.wanted "expecting primary")
  | fuel + 1, t, following => do
    let a ← both isSkipped fuel t following
    if (← last) ≠ .operator "||" then return a
    let t ← next
    let b ← either (isSkipped || a ≠ 0) fuel t (← next)
    return truth (a ≠ 0 || b ≠ 0)

def choice (isSkipped : Bool) : Nat → Token → Token → Calculation Int
  | 0, _, _ => throw (.wanted "expecting primary")
  | fuel + 1, t, following => do
    let a ← either isSkipped fuel t following
    if (← last) ≠ .operator "?" then return a
    let b ← assignment (isSkipped || a = 0) fuel (← next)
    if (← last) ≠ .operator ":" then throw (.wanted "expecting ':'")
    let t ← next
    let c ← choice (isSkipped || a ≠ 0) fuel t (← next)
    return if a ≠ 0 then b else c

def assignment (isSkipped : Bool) : Nat → Token → Calculation Int
  | 0, _ => throw (.wanted "expecting primary")
  | fuel + 1, t => do
    let following ← next
    match t, following with
    | .name s, .operator sign =>
      let operator := sign.toList.dropLast
      if sign = "=" || sign.endsWith "=" && (operators.lookup (String.ofList operator)).isSome
          && (operators.lookup sign).isNone then
        let b ← assignment isSkipped fuel (← next)
        if isSkipped then return b
        let n ←
          if sign = "=" then pure b
          else do
            let a ← valueOf lookup s
            (apply (String.ofList operator) a b : Except Fault Int)
        modify fun p => { p with bindings := (s, n) :: p.bindings }
        return n
      else choice isSkipped fuel t following
    | _, _ => choice isSkipped fuel t following

end

def evaluate (s : Octets) : Except Fault (Int × List (Octets × Int)) := do
  let (n, p) ← (do
    let n ← assignment lookup false (8 * s.length + 64) (← next)
    if (← last) ≠ .finish then throw (.wanted "expecting EOF")
    return n : Calculation Int).run { rest := s }
  return (n, p.bindings.reverse)

end

def Fault.message (expression : Octets) : Fault → Octets
  | wanted what =>
    "arithmetic expression: ".toList ++ what.toList ++ ": \"".toList ++ expression ++ ['"']
  | divisionByZero =>
    "arithmetic expression: division by zero: \"".toList ++ expression ++ ['"']
  | illegal s => "Illegal number: ".toList ++ s

end DeployForge.Shell.Arithmetic
