import DeployForge.Shell.Octets

namespace DeployForge.Shell.Escape

def letter? : Char → Option Char
  | 'a' => some '\x07'
  | 'b' => some '\x08'
  | 'f' => some '\x0c'
  | 'n' => some '\n'
  | 'r' => some '\r'
  | 't' => some '\t'
  | 'v' => some '\x0b'
  | 'e' => some '\x1b'
  | '\\' => some '\\'
  | _ => none

def octal (digits : Octets) : Char := octet (Octets.foldDigits 8 digits)

def inFormat (s : List Char) : Char × List Char :=
  let digits := (s.take 3).takeWhile isOctal
  if !digits.isEmpty then (octal digits, s.drop digits.length)
  else
    match s with
    | c :: rest =>
      match letter? c with
      | some d => (d, rest)
      | none => ('\\', s)
    | [] => ('\\', [])

/-- Puts in what the backslashes of a text mean, as the shell's own commands do. The flag says that
`\c` ended it. -/
def textWithin : Nat → Octets → List Char → Octets × Bool
  | 0, done, _ | _, done, [] => (done.reverse, false)
  | _, done, '\\' :: 'c' :: _ => (done.reverse, true)
  | fuel + 1, done, '\\' :: '0' :: d :: rest =>
    let (c, rest) := inFormat (if isOctal d then d :: rest else '0' :: d :: rest)
    textWithin fuel (c :: done) rest
  | fuel + 1, done, '\\' :: rest =>
    let (c, rest) := inFormat rest
    textWithin fuel (c :: done) rest
  | fuel + 1, done, c :: rest => textWithin fuel (c :: done) rest

def text (s : Octets) : Octets × Bool := textWithin (s.length + 1) [] s

/-- Hexadecimal numbers count as well. In a format an octal number needs no zero. -/
def widerWithin (isFormat : Bool) : Nat → Octets → List Char → Octets × Bool
  | 0, done, _ | _, done, [] => (done.reverse, false)
  | _, done, '\\' :: 'c' :: _ => (done.reverse, true)
  | fuel + 1, done, '\\' :: 'x' :: rest =>
    let digits := (rest.take 2).takeWhile isHexDigit
    if digits.isEmpty then widerWithin isFormat fuel ('x' :: '\\' :: done) rest
    else widerWithin isFormat fuel (octet (Octets.foldDigits 16 digits) :: done)
      (rest.drop digits.length)
  | fuel + 1, done, '\\' :: c :: rest =>
    let s := if c = '0' && !isFormat then rest else c :: rest
    let digits := (s.take 3).takeWhile isOctal
    if c = '0' && !isFormat then
      widerWithin isFormat fuel (octal digits :: done) (s.drop digits.length)
    else if !digits.isEmpty then
      widerWithin isFormat fuel (octal digits :: done) (s.drop digits.length)
    else
      match letter? c with
      | some d => widerWithin isFormat fuel (d :: done) rest
      | none =>
        if c = '"' && isFormat then widerWithin isFormat fuel ('"' :: done) rest
        else widerWithin isFormat fuel (c :: '\\' :: done) rest
  | fuel + 1, done, c :: rest => widerWithin isFormat fuel (c :: done) rest

def wider (isFormat : Bool) (s : Octets) : Octets × Bool := widerWithin isFormat (s.length + 1) [] s

def hasLooseEnd : Octets → Bool
  | ['\\'] => true
  | '\\' :: _ :: rest => hasLooseEnd rest
  | _ :: rest => hasLooseEnd rest
  | [] => false

end DeployForge.Shell.Escape
