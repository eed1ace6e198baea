import DeployForge.Shell.Arithmetic
import DeployForge.Shell.Channel

namespace DeployForge.Shell.Condition

inductive Kind where
  | unary
  | binary
  | conjunction
  | disjunction
  | negation
  | opening
  | closing
  deriving DecidableEq, Repr

def kinds : List (String × Kind) :=
  ["-r", "-w", "-x", "-e", "-f", "-d", "-c", "-b", "-p", "-u", "-g", "-k", "-s", "-t", "-z", "-n",
    "-h", "-O", "-G", "-L", "-S"].map (·, .unary)
  ++ ["=", "!=", "<", ">", "-eq", "-ne", "-ge", "-gt", "-le", "-lt", "-nt", "-ot", "-ef"].map
    (·, .binary)
  ++ [("-a", .conjunction), ("-o", .disjunction), ("!", .negation), ("(", .opening), (")", .closing)]

def kind? (s : Octets) : Option Kind := kinds.lookup (String.ofList s)

inductive Token where
  | finish
  | operand
  | operator (k : Kind)
  deriving DecidableEq, Repr

def isOperand : List Octets → Bool
  | [] => true
  | [_] => false
  | s :: _ => kind? s = some .binary

def lex : List Octets → Token
  | [] => .finish
  | s :: rest =>
    match kind? s with
    | some .unary => if isOperand rest then .operand else .operator .unary
    | some .opening => if rest.isEmpty then .operand else .operator .opening
    | some k => .operator k
    | none => .operand

def wrong {α : Type} (operator : Octets) (text : String) : Act α :=
  Act.fail (if operator.isEmpty then text.toList else operator ++ ": ".toList ++ text.toList)

def number (s : Octets) : Act Int :=
  let t := Octets.dropRightWhile isSpace (s.dropWhile isSpace)
  match Octets.int? t with
  | some n => return n
  | none => Act.fail ("Illegal number: ".toList ++ s)

def mode? (m : Machine) (p : Octets) : Option (Nat × Entry) :=
  match m.storage.status true p with
  | .ok (l, e) => some (m.storage.mode l, e)
  | .error _ => none

def size : Entry → Nat
  | .file content => content.size
  | .directory => 4096
  | .link target => target.length
  | _ => 0

def ofWord (operator : String) (s : Octets) : Act Bool := do
  let m ← get
  let entry? := mode? m s
  let is (test : Nat → Entry → Bool) : Bool := match entry? with
    | some (bits, e) => test bits e
    | none => false
  match operator with
  | "-z" => return s.isEmpty
  | "-n" => return !s.isEmpty
  | "-t" =>
    discard (number s)
    return false
  | "-x" => return is fun bits e => e = .directory || bits &&& 73 ≠ 0
  | "-f" => return is fun _ e => match e with
    | .file _ | .program => true
    | _ => false
  | "-d" => return is fun _ e => e = .directory
  | "-s" => return is fun _ e => e = .program || size e ≠ 0
  | "-c" => return is fun _ e => match e with
    | .device _ => true
    | _ => false
  | "-u" => return is fun bits _ => bits &&& 2048 ≠ 0
  | "-g" => return is fun bits _ => bits &&& 1024 ≠ 0
  | "-k" => return is fun bits _ => bits &&& 512 ≠ 0
  | "-h" | "-L" =>
    match m.storage.status false s with
    | .ok (_, .link _) => return true
    | _ => return false
  | "-b" | "-p" | "-S" => return false
  | _ => return entry?.isSome

def place? (m : Machine) (p : Octets) : Option Location :=
  (m.storage.status true p).toOption.map (·.1)

def ofWords (operator : String) (s t : Octets) : Act Bool := do
  let m ← get
  let files (test : Location → Location → Bool) : Bool := match place? m s, place? m t with
    | some a, some b => test a b
    | _, _ => false
  let numbers (test : Int → Int → Bool) : Act Bool := do
    let a ← number s
    return test a (← number t)
  match operator with
  | "=" => return s = t
  | "!=" => return s ≠ t
  | "<" => return s ≠ t && Octets.atMost s t
  | ">" => return s ≠ t && Octets.atMost t s
  | "-eq" => numbers (· = ·)
  | "-ne" => numbers (· ≠ ·)
  | "-ge" => numbers (· ≥ ·)
  | "-gt" => numbers (· > ·)
  | "-le" => numbers (· ≤ ·)
  | "-lt" => numbers (· < ·)
  | "-nt" => return files fun a b => m.storage.time b < m.storage.time a
  | "-ot" => return files fun a b => m.storage.time a < m.storage.time b
  | _ => return files (· = ·)

mutual

def either : Nat → Token → List Octets → Act (Bool × List Octets)
  | 0, _, _ => throw .exhausted
  | fuel + 1, t, ws => do
    let (a, ws) ← both fuel t ws
    if lex ws.tail = .operator .disjunction then
      let ws := ws.drop 2
      let (b, ws) ← either fuel (lex ws) ws
      return (a || b, ws)
    else return (a, ws)

def both : Nat → Token → List Octets → Act (Bool × List Octets)
  | 0, _, _ => throw .exhausted
  | fuel + 1, t, ws => do
    let (a, ws) ← negated fuel t ws
    if lex ws.tail = .operator .conjunction then
      let ws := ws.drop 2
      let (b, ws) ← both fuel (lex ws) ws
      return (a && b, ws)
    else return (a, ws)

def negated : Nat → Token → List Octets → Act (Bool × List Octets)
  | 0, _, _ => throw .exhausted
  | fuel + 1, t, ws => do
    if t = .operator .negation then
      let next := lex ws.tail
      let (a, ws) ← negated fuel next (if next = .finish then ws else ws.tail)
      return (!a, ws)
    else primary fuel t ws

def primary : Nat → Token → List Octets → Act (Bool × List Octets)
  | 0, _, _ => throw .exhausted
  | fuel + 1, t, ws => do
    match t, ws with
    | .finish, ws => return (false, ws)
    | .operator .opening, _ :: ws =>
      if lex ws = .operator .closing then return (false, ws)
      let (a, ws) ← either fuel (lex ws) ws
      if lex ws.tail ≠ .operator .closing then wrong [] "closing paren expected"
      return (a, ws.tail)
    | .operator .unary, operator :: s :: rest =>
      return (← ofWord (String.ofList operator) s, s :: rest)
    | .operator .unary, operator :: _ => wrong operator "argument expected"
    | _, s :: operator :: rest =>
      if lex (operator :: rest) = .operator .binary then
        match rest with
        | u :: rest => return (← ofWords (String.ofList operator) s u, u :: rest)
        | [] => wrong operator "argument expected"
      else return (!s.isEmpty, ws)
    | _, s :: _ => return (!s.isEmpty, ws)
    | _, [] => return (false, ws)

end

def whole (negate : Bool) : Nat → List Octets → Act Bool
  | 0, _ => throw .exhausted
  | _, [] => return false
  | fuel + 1, ws => do
    let evaluate (t : Token) (ws : List Octets) : Act Bool := do
      let (a, rest) ← either (8 * ws.length + 16) t ws
      match rest with
      | s :: _ :: _ => wrong s "unexpected operator"
      | _ => return a
    let n := ws.length
    let isBinary := n = 3 && ws[1]?.bind kind? = some .binary
    if isBinary then return (← evaluate .operand ws) != negate
    else if (n = 3 || n = 4) && ws.head? = some ['('] && ws.getLast? = some [')'] then
      let inner := (ws.drop 1).dropLast
      return (← evaluate (lex inner) inner) != negate
    else if (n = 3 || n = 4) && ws.head? = some ['!'] then whole (!negate) fuel ws.tail
    else return (← evaluate (lex ws) ws) != negate

def check (ws : List Octets) : Act Nat := do
  match ws with
  | [] => return 1
  | _ => return if ← whole false (ws.length + 1) ws then 0 else 1

def bracketed (ws : List Octets) : Act Nat :=
  if ws.getLast? = some [']'] then check ws.dropLast else wrong [] "missing ]"

end DeployForge.Shell.Condition
