import DeployForge.Shell.Edit

namespace DeployForge.Shell.Edit

inductive Fault where
  | regex (f : Regex.Fault)
  | manyNegations
  | badComma
  | badFirstAddress
  | unclosedBlock
  | unopenedBlock
  | excess
  | noText
  | blockEndAddress
  | labelAddress
  | commentAddress
  | noCommand
  | oneAddress
  | unclosedAddress
  | unclosedSubstitution
  | unclosedExchange
  | unknownFlag
  | manyShows
  | manyGlobals
  | manyNumbers
  | zeroNumber
  | unequalLengths
  | newerVersion
  | lineZero
  | unknownCommand (c : Char)
  | noLabel
  | nestedControl
  | forbidden
  | noFileName
  | badReference (n : Nat)
  | emptyWithFlags
  | noRegex
  deriving DecidableEq, Repr

def Fault.text : Fault → String
  | regex f => f.text
  | manyNegations => "multiple \x60!'s"
  | badComma => "unexpected \x60,'"
  | badFirstAddress => "invalid usage of +N or ~N as first address"
  | unclosedBlock => "unmatched \x60\x7b'"
  | unopenedBlock => "unexpected \x60\x7d'"
  | excess => "extra characters after command"
  | noText => "expected \\ after \x60a', \x60c' or \x60i'"
  | blockEndAddress => "\x7d doesn't want any addresses"
  | labelAddress => ": doesn't want any addresses"
  | commentAddress => "comments don't accept any addresses"
  | noCommand => "missing command"
  | oneAddress => "command only uses one address"
  | unclosedAddress => "unterminated address regex"
  | unclosedSubstitution => "unterminated \x60s' command"
  | unclosedExchange => "unterminated \x60y' command"
  | unknownFlag => "unknown option to \x60s'"
  | manyShows => "multiple \x60p' options to \x60s' command"
  | manyGlobals => "multiple \x60g' options to \x60s' command"
  | manyNumbers => "multiple number options to \x60s' command"
  | zeroNumber => "number option to \x60s' command may not be zero"
  | unequalLengths => "strings for \x60y' command are different lengths"
  | newerVersion => "expected newer version of sed"
  | lineZero => "invalid usage of line address 0"
  | unknownCommand c => "unknown command: \x60" ++ String.singleton c ++ "'"
  | noLabel => "\":\" lacks a label"
  | nestedControl => "recursive escaping after \\c not allowed"
  | forbidden => "e/r/w commands disabled in sandbox mode"
  | noFileName => "missing filename in r/R/w/W commands"
  | badReference n => "invalid reference \\" ++ toString n ++ " on \x60s' command's RHS"
  | emptyWithFlags => "cannot specify modifiers on empty regexp"
  | noRegex => "no previous regular expression"

def coded (letter : Char) (base most : Nat) (s : List Char) : Char × List Char :=
  let isDigit (c : Char) : Bool := isHexDigit c && digitValue (c.toLower) < base
  let digits := (s.take most).takeWhile isDigit
  if digits.isEmpty then (letter, s)
  else (octet (Octets.foldDigits base (digits.map Char.toLower)), s.drop digits.length)

def named? (c : Char) (s : List Char) : Except Fault (Option (Char × List Char)) :=
  match c with
  | 'a' => .ok (some ('\x07', s))
  | 'f' => .ok (some ('\x0c', s))
  | 'n' => .ok (some ('\n', s))
  | 'r' => .ok (some ('\r', s))
  | 't' => .ok (some ('\t', s))
  | 'v' => .ok (some ('\x0b', s))
  | 'd' => .ok (some (coded 'd' 10 3 s))
  | 'o' => .ok (some (coded 'o' 8 3 s))
  | 'x' => .ok (some (coded 'x' 16 2 s))
  | 'c' =>
    match s with
    | [] => .ok (some ('\\', []))
    | '\\' :: '\\' :: rest => .ok (some ('\x1c', rest))
    | '\\' :: _ => .error .nestedControl
    | c :: rest => .ok (some (octet (c.toUpper.toNat ^^^ 64), rest))
  | _ => .ok none

def regexText : Nat → List Char → Except Fault (List Char)
  | 0, _ | _, [] => .ok []
  | fuel + 1, '\\' :: c :: rest => do
    match ← named? c rest with
    | some (d, rest) => return d :: (← regexText fuel rest)
    | none => return '\\' :: c :: (← regexText fuel rest)
  | fuel + 1, c :: rest => return c :: (← regexText fuel rest)

def plainText : Nat → List Char → Except Fault (List Char)
  | 0, _ | _, [] => .ok []
  | fuel + 1, '\\' :: c :: rest => do
    match ← named? c rest with
    | some (d, rest) => return d :: (← plainText fuel rest)
    | none => return c :: (← plainText fuel rest)
  | _, ['\\'] => .ok ['\\']
  | fuel + 1, c :: rest => return c :: (← plainText fuel rest)

/-- The portions of a replacement. `writing` holds for what is read next, `later` from there on. -/
def portions : Nat → List Char → Octets → Writing → Writing → Except Fault (List Portion)
  | 0, _, _, _, _ => .ok []
  | _, [], text, writing, _ =>
    .ok (if text.isEmpty then [] else [{ text := text.reverse, writing }])
  | fuel + 1, '\\' :: c :: rest, text, writing, later => do
    let flush (more : Octets) (group : Option Nat) : Portion :=
      { text := (more ++ text).reverse, group, writing }
    if c.isDigit then
      return flush [] (some (digitValue c)) :: (← portions fuel rest [] later later)
    match c with
    | 'L' => return flush [] none :: (← portions fuel rest [] ⟨.lower, none⟩ ⟨.lower, none⟩)
    | 'U' => return flush [] none :: (← portions fuel rest [] ⟨.upper, none⟩ ⟨.upper, none⟩)
    | 'E' => return flush [] none :: (← portions fuel rest [] {} {})
    | 'l' =>
      return flush [] none :: (← portions fuel rest [] { later with first := some .lower } later)
    | 'u' =>
      return flush [] none :: (← portions fuel rest [] { later with first := some .upper } later)
    | _ =>
      match ← named? c rest with
      | some (d, rest) => portions fuel rest (d :: text) writing later
      | none => return flush [c] none :: (← portions fuel rest [] later later)
  | fuel + 1, '&' :: rest, text, writing, later => do
    let portion : Portion := { text := text.reverse, group := some 0, writing }
    return portion :: (← portions fuel rest [] later later)
  | fuel + 1, c :: rest, text, writing, later => portions fuel rest (c :: text) writing later

end DeployForge.Shell.Edit
