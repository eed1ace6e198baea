import DeployForge.Text.Split
import DeployForge.Toml.Text
import DeployForge.Toml.Value

namespace DeployForge.Toml

def digitOf? (base : Nat) (c : Char) : Option Nat := do
  let d ← hexDigit? c
  if d < base then some d else none

def natOf? (base : Nat) (digits : List Char) : Option Nat :=
  digits.foldlM (fun n c => do return n * base + (← digitOf? base c)) 0

def digits? (base : Nat) (word : List Char) : Option (List Char) :=
  let groups := Text.splitAt '_' word
  if groups.all fun group => !group.isEmpty && group.all (digitOf? base · |>.isSome) then
    some groups.flatten
  else none

def signed (word : List Char) : Bool × List Char :=
  match word with
  | '-' :: rest => (true, rest)
  | '+' :: rest => (false, rest)
  | _ => (false, word)

def inRange (i : Int) : Bool := -9223372036854775808 ≤ i && i ≤ 9223372036854775807

/-- Decimal digits of a whole part, which has no leading zero. -/
def whole? (word : List Char) : Option (List Char) := do
  let digits ← digits? 10 word
  if digits.length > 1 && digits.head? = some '0' then none else some digits

def based? (base : Nat) (word : List Char) : Option Int :=
  ((digits? base word).bind (natOf? base)).map Int.ofNat

def withSign (negative : Bool) (n : Nat) : Int := if negative then -(n : Int) else n

def decimal? (word : List Char) : Option Int :=
  let (negative, rest) := signed word
  ((whole? rest).bind (natOf? 10)).map (withSign negative)

def anyInteger? (word : List Char) : Option Int :=
  match word with
  | '0' :: 'x' :: rest => based? 16 rest
  | '0' :: 'o' :: rest => based? 8 rest
  | '0' :: 'b' :: rest => based? 2 rest
  | _ => decimal? word

def integer? (word : List Char) : Option Int := (anyInteger? word).filter inRange

def cut (marks : List Char) (word : List Char) : List Char × Option (List Char) :=
  let front := word.takeWhile (!marks.contains ·)
  match word.drop front.length with
  | [] => (front, none)
  | _ :: rest => (front, some rest)

def fraction? : Option (List Char) → Option (List Char)
  | none => some []
  | some word => digits? 10 word

def exponent? : Option (List Char) → Option Int
  | none => some 0
  | some word =>
    let (negative, rest) := signed word
    ((digits? 10 rest).bind (natOf? 10)).map (withSign negative)

/-- A number with a fraction, an exponent or both. Too large a positive one is refused. -/
def finite? (word : List Char) : Option Real := do
  let (negative, rest) := signed word
  let (mantissa, exponent) := cut ['e', 'E'] rest
  let (whole, fraction) := cut ['.'] mantissa
  if exponent.isNone && fraction.isNone then failure
  let whole ← whole? whole
  let fraction ← fraction? fraction
  let exponent ← exponent? exponent
  let digits ← natOf? 10 (whole ++ fraction)
  match Decimal.nearest digits (exponent - fraction.length) with
  | .finite b => some (.finite negative b)
  | .infinite => if negative then some (.infinite true) else none

def real? (word : List Char) : Option Real :=
  let (negative, rest) := signed word
  if rest = "inf".toList then some (.infinite negative)
  else if rest = "nan".toList then some .nan
  else finite? word

def two? (most : Nat) : List Char → Option Nat
  | [a, b] => do
    let n ← natOf? 10 [a, b]
    if n ≤ most then some n else none
  | _ => none

def daysIn (year month : Nat) : Nat :=
  if month = 2 then
    if year % 4 = 0 && (year % 100 ≠ 0 || year % 400 = 0) then 29 else 28
  else if [4, 6, 9, 11].contains month then 30 else 31

def isDate (word : List Char) : Bool :=
  match Text.splitAt '-' word with
  | [year, month, day] =>
    match natOf? 10 year, two? 12 month, two? 31 day with
    | some y, some m, some d => year.length = 4 && 1 ≤ m && 1 ≤ d && d ≤ daysIn y m
    | _, _, _ => false
  | _ => false

def isTime (word : List Char) : Bool :=
  match Text.splitAt ':' word with
  | [hour, minute, second] =>
    let (second, fraction) := cut ['.'] second
    (two? 23 hour).isSome && (two? 59 minute).isSome && (two? 60 second).isSome
      && fraction.all fun digits => !digits.isEmpty && digits.all Char.isDigit
  | _ => false

def isOffset (word : List Char) : Bool :=
  match Text.splitAt ':' word with
  | [hour, minute] => (two? 23 hour).isSome && (two? 59 minute).isSome
  | _ => false

/-- A time of day, and perhaps its distance from universal time. -/
def isZonedTime (word : List Char) : Bool :=
  let (time, offset) := cut ['Z', 'z', '+', '-'] word
  isTime time && match offset with
    | none => true
    | some offset =>
      if word.getLast? = some 'Z' || word.getLast? = some 'z' then offset.isEmpty
      else isOffset offset

def isDateTime (word : List Char) : Bool :=
  isDate word || isTime word
    || isDate (word.take 10) && match word.drop 10 with
      | mark :: time => (mark = 'T' || mark = 't' || mark = ' ') && isZonedTime time
      | [] => false

def isWordChar (c : Char) : Bool :=
  c.isAlphanum || c = '_' || c = '+' || c = '-' || c = '.' || c = ':'

/-- The word at the start of a value. A space inside it parts a date from a time. -/
def word (s : List Char) : List Char :=
  let front := s.takeWhile isWordChar
  match s.drop front.length with
  | ' ' :: c :: rest =>
    if isDate front && c.isDigit then front ++ ' ' :: (c :: rest).takeWhile isWordChar else front
  | _ => front

def scalarOf? (word : List Char) : Option Value :=
  if word = "true".toList then some (.boolean true)
  else if word = "false".toList then some (.boolean false)
  else if isDateTime word then some .dateTime
  else ((integer? word).map .integer).or ((real? word).map .real)

def scalar? (s : List Char) : Option (Value × List Char) := do
  let word := word s
  return (← scalarOf? word, s.drop word.length)

end DeployForge.Toml
