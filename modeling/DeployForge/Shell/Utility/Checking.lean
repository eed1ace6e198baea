import DeployForge.Shell.Condition
import DeployForge.Shell.Utility.Files

namespace DeployForge.Shell.Utility

abbrev Check := StateT (List Octets) Act

namespace Check

def unary : List String := [
  "-n", "-z", "-b", "-c", "-d", "-e", "-f", "-g", "-h", "-k", "-L", "-O", "-G", "-N", "-p", "-r",
  "-s", "-S", "-t", "-u", "-w", "-x"]

def binary : List String := [
  "=", "!=", "==", "-nt", "-ot", "-ef", "-eq", "-ne", "-lt", "-le", "-gt", "-ge"]

def isUnary (s : Octets) : Bool := unary.contains (String.ofList s)

def isBinary (s : Octets) : Bool := binary.contains (String.ofList s)

def wrong {α : Type} (c : Call) (text : Octets) : Check α := c.fail 2 text

def missing {α : Type} (c : Call) (after : Octets) : Check α :=
  wrong c ("missing argument after ".toList ++ Quote.always after)

def number (c : Call) (s : Octets) : Act Int :=
  match Octets.int? (Octets.dropRightWhile isBlank (s.dropWhile isBlank)) with
  | some n => return n
  | none => c.fail 2 ("invalid integer ".toList ++ Quote.always s)

def ofWords (c : Call) (operator a b : Octets) : Act Bool := do
  let name := String.ofList operator
  if ["-eq", "-ne", "-lt", "-le", "-gt", "-ge"].contains name then
    let x ← number c a
    let y ← number c b
    match name with
    | "-eq" => return x = y
    | "-ne" => return x ≠ y
    | "-lt" => return x < y
    | "-le" => return x ≤ y
    | "-gt" => return x > y
    | _ => return x ≥ y
  else
    let place (p : Octets) : Act (Option Location) := return Condition.place? (← get) p
    let later (p q : Octets) : Act Bool := do
      match ← place p, ← place q with
      | some x, some y =>
        let s := (← get).storage
        return s.time y < s.time x
      | x, _ => return x.isSome
    match name with
    | "-nt" => later a b
    | "-ot" => later b a
    | _ => Condition.ofWords (if name = "==" then "=" else name) a b

def ofWord (operator a : Octets) : Act Bool :=
  if operator = ['-', 't'] then return false else Condition.ofWord (String.ofList operator) a

def isLetterOption (s : Octets) : Bool :=
  match s with
  | ['-', _] => true
  | _ => false

def notUnary {α : Type} (c : Call) (s : Octets) : Check α :=
  wrong c (Quote.always s ++ ": unary operator expected".toList)

def lengthText (s : Octets) : Octets := .ofNat s.length

def simple (c : Call) (a : Octets) (rest : List Octets) : Check Bool := do
  if isLetterOption a then
    if !isUnary a then notUnary c a
    match rest with
    | [] => missing c a
    | b :: rest =>
      set rest
      ofWord a b
  else
    set rest
    return !a.isEmpty

def compare (c : Call) (a operator : Octets) : List Octets → Check Bool
  | ['-', 'l'] :: b :: rest => do
    set rest
    ofWords c operator a (lengthText b)
  | b :: rest => do
    set rest
    ofWords c operator a b
  | [] => missing c operator

mutual

def either (c : Call) (last : Octets) : Nat → Check Bool
  | 0 => throw .exhausted
  | fuel + 1 => do
    let a ← both c last fuel
    match ← get with
    | ['-', 'o'] :: rest =>
      set rest
      return (← either c ['-', 'o'] fuel) || a
    | _ => return a

def both (c : Call) (last : Octets) : Nat → Check Bool
  | 0 => throw .exhausted
  | fuel + 1 => do
    let a ← term c last fuel
    match ← get with
    | ['-', 'a'] :: rest =>
      set rest
      return (← both c ['-', 'a'] fuel) && a
    | _ => return a

def term (c : Call) (last : Octets) : Nat → Check Bool
  | 0 => throw .exhausted
  | fuel + 1 => do
    match ← get with
    | [] => missing c last
    | ['!'] :: rest =>
      set rest
      return !(← term c ['!'] fuel)
    | ['('] :: rest =>
      set rest
      if rest.isEmpty then missing c ['(']
      let a ← either c ['('] fuel
      match ← get with
      | [')'] :: rest =>
        set rest
        return a
      | [] => wrong c "')' expected".toList
      | w :: _ => wrong c ("')' expected, found ".toList ++ w)
    | ['-', 'l'] :: a :: operator :: b :: rest =>
      if isBinary operator then compare c (lengthText a) operator (b :: rest)
      else simple c ['-', 'l'] (a :: operator :: b :: rest)
    | a :: operator :: b :: rest =>
      if isBinary operator then compare c a operator (b :: rest)
      else simple c a (operator :: b :: rest)
    | a :: rest => simple c a rest

end

def one (s : Octets) : Bool := !s.isEmpty

def two (c : Call) (a b : Octets) : Check Bool := do
  if a = ['!'] then return !one b
  else if isLetterOption a then if isUnary a then ofWord a b else notUnary c a
  else missing c b

def three (c : Call) (a b d : Octets) : Check Bool := do
  if isBinary b then ofWords c b a d
  else if a = ['!'] then return !(← two c b d)
  else if a = ['('] && d = [')'] then return one b
  else if b = ['-', 'a'] then return one a && one d
  else if b = ['-', 'o'] then return one a || one d
  else wrong c (Quote.always b ++ ": binary operator expected".toList)

def whole (c : Call) (words : List Octets) : Check Bool := do
  let general : Check Bool := do
    set words
    let a ← either c [] (8 * words.length + 16)
    match ← get with
    | [] => return a
    | w :: _ => wrong c ("extra argument ".toList ++ Quote.always w)
  match words with
  | [] => return false
  | [a] => return one a
  | [a, b] => two c a b
  | [a, b, d] => three c a b d
  | [a, b, d, e] =>
    if a = ['!'] then return !(← three c b d e)
    else if a = ['('] && e = [')'] then two c b d
    else general
  | _ => general

end Check

def check (c : Call) (words : List Octets) : Act Nat := do
  let (holds, _) ← (Check.whole c words).run words
  return if holds then 0 else 1

def test (c : Call) : Act Nat := check c c.args

def bracket (c : Call) : Act Nat := do
  if c.args.getLast? = some [']'] then check c c.args.dropLast else c.failText 2 "missing ']'"

end DeployForge.Shell.Utility
