import DeployForge.Text.Utf8

namespace DeployForge.Toml

def isPlain (c : Char) : Bool := c = '\t' || 0x20 ≤ c.toNat && c.toNat ≠ 0x7F

def isSpace (c : Char) : Bool := c = ' ' || c = '\t'

def skipSpace (s : List Char) : List Char := s.dropWhile isSpace

def newline? : List Char → Option (List Char)
  | '\n' :: rest => some rest
  | '\r' :: '\n' :: rest => some rest
  | _ => none

def hexDigit? (c : Char) : Option Nat :=
  if c.isDigit then some (c.toNat - '0'.toNat)
  else if 'a' ≤ c && c ≤ 'f' then some (c.toNat - 'a'.toNat + 10)
  else if 'A' ≤ c && c ≤ 'F' then some (c.toNat - 'A'.toNat + 10)
  else none

def charOf? (digits : List Char) : Option Char := do
  let n ← digits.foldlM (fun n c => do return n * 16 + (← hexDigit? c)) 0
  if n < 0xD800 || 0xE000 ≤ n && n < 0x110000 then some (Char.ofNat n) else none

def escapes : List (Char × Char) := [
  ('b', '\x08'), ('t', '\t'), ('n', '\n'), ('f', '\x0c'), ('r', '\r'), ('"', '"'), ('\\', '\\')]

def escape? (c : Char) : Option Char := escapes.lookup c

def prepend (c : Char) (tail : Option (List Char × List Char)) : Option (List Char × List Char) :=
  tail.map fun (text, rest) => (c :: text, rest)

def basic? : List Char → Option (List Char × List Char)
  | [] => none
  | '"' :: rest => some ([], rest)
  | '\\' :: 'u' :: a :: b :: c :: d :: rest => do prepend (← charOf? [a, b, c, d]) (basic? rest)
  | '\\' :: 'U' :: a :: b :: c :: d :: e :: f :: g :: h :: rest => do
    prepend (← charOf? [a, b, c, d, e, f, g, h]) (basic? rest)
  | '\\' :: c :: rest => do prepend (← escape? c) (basic? rest)
  | c :: rest => if isPlain c && c ≠ '\\' then prepend c (basic? rest) else none

def literal? : List Char → Option (List Char × List Char)
  | [] => none
  | '\'' :: rest => some ([], rest)
  | c :: rest => if isPlain c then prepend c (literal? rest) else none

/-- Up to two quotes may stand right before the three that close. -/
def closing (quote : Char) (rest : List Char) : List Char × List Char :=
  let extra := ((rest.take 2).takeWhile (· = quote)).length
  (List.replicate extra quote, rest.drop extra)

/-- Whether a backslash before `s` joins lines: only blanks are left on its line. -/
def joinsLines (s : List Char) : Bool := (newline? (skipSpace s)).isSome

/-- A text over several lines up to its closing quotes. Behind a backslash at the end of a line
everything blank is left out. -/
def basicLines? (joining : Bool) : List Char → Option (List Char × List Char)
  | [] => none
  | '\r' :: '\n' :: rest =>
    if joining then basicLines? true rest else prepend '\n' (basicLines? false rest)
  | '\n' :: rest =>
    if joining then basicLines? true rest else prepend '\n' (basicLines? false rest)
  | '"' :: '"' :: '"' :: rest => some (closing '"' rest)
  | '\\' :: 'u' :: a :: b :: c :: d :: rest => do
    prepend (← charOf? [a, b, c, d]) (basicLines? false rest)
  | '\\' :: 'U' :: a :: b :: c :: d :: e :: f :: g :: h :: rest => do
    prepend (← charOf? [a, b, c, d, e, f, g, h]) (basicLines? false rest)
  | '\\' :: c :: rest =>
    if joinsLines (c :: rest) then basicLines? true (c :: rest)
    else do prepend (← escape? c) (basicLines? false rest)
  | c :: rest =>
    if joining && isSpace c then basicLines? true rest
    else if isPlain c && c ≠ '\\' then prepend c (basicLines? false rest)
    else none

def literalLines? : List Char → Option (List Char × List Char)
  | [] => none
  | '\r' :: '\n' :: rest => prepend '\n' (literalLines? rest)
  | '\'' :: '\'' :: '\'' :: rest => some (closing '\'' rest)
  | c :: rest => if isPlain c || c = '\n' then prepend c (literalLines? rest) else none

def afterNewline (s : List Char) : List Char := (newline? s).getD s

def text? : List Char → Option (List Char × List Char)
  | '"' :: '"' :: '"' :: rest => basicLines? false (afterNewline rest)
  | '"' :: rest => basic? rest
  | '\'' :: '\'' :: '\'' :: rest => literalLines? (afterNewline rest)
  | '\'' :: rest => literal? rest
  | _ => none

end DeployForge.Toml
