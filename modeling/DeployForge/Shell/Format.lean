import DeployForge.Decimal.Places
import DeployForge.Shell.Octets

namespace DeployForge.Shell

inductive Real where
  | finite (negative : Bool) (magnitude : Decimal.Binary)
  | infinite (negative : Bool)
  | notNumber (negative : Bool)
  deriving DecidableEq, Repr

namespace Real

def ofFloat (x : Float) : Real :=
  let bits := x.toBits.toNat
  let negative := bits / Nat.pow 2 63 % 2 = 1
  let exponent := bits / Nat.pow 2 52 % 2048
  let fraction := bits % Nat.pow 2 52
  if exponent = 2047 then
    if fraction = 0 then .infinite negative else .notNumber negative
  else if exponent = 0 then .finite negative ⟨fraction, -1074⟩
  else .finite negative ⟨fraction + Nat.pow 2 52, (exponent : Int) - 1075⟩

def toFloat : Real → Float
  | finite negative b =>
    let sign := if negative then Nat.pow 2 63 else 0
    let implicit := Nat.pow 2 52
    let magnitude :=
      if b.mantissa < implicit then b.mantissa
      else (b.exponent + 1075).toNat * implicit + (b.mantissa - implicit)
    Float.ofBits (UInt64.ofNat (sign + magnitude))
  | infinite negative => if negative then -1.0 / 0.0 else 1.0 / 0.0
  | notNumber _ => 0.0 / 0.0

/-- How large numbers of a kind may be: the binary digits they have and the least exponent. -/
structure Size where
  bits : Nat
  least : Int

def double : Size := ⟨53, -1074⟩

def extended : Size := ⟨64, -16445⟩

def ofFraction (size : Size) (negative : Bool) (num den : Nat) : Real :=
  if num = 0 then .finite negative ⟨0, 0⟩
  else
    let b := Decimal.roundTo size.bits size.least num den
    if b.exponent > -size.least - size.bits * 2 + 3 then .infinite negative else .finite negative b

def read (size : Size) (s : Octets) : Option (Real × Octets) :=
  let t := s.dropWhile isSpace
  let (negative, t) := match t with
    | '-' :: rest => (true, rest)
    | '+' :: rest => (false, rest)
    | _ => (false, t)
  let lower := t.map Char.toLower
  if "infinity".toList.isPrefixOf lower then some (.infinite negative, t.drop 8)
  else if "inf".toList.isPrefixOf lower then some (.infinite negative, t.drop 3)
  else if "nan".toList.isPrefixOf lower then some (.notNumber negative, t.drop 3)
  else
    let isHex := "0x".toList.isPrefixOf lower
      && ((t.drop 2).filter (· ≠ '.')).head?.map isHexDigit = some true
    let test := if isHex then isHexDigit else Char.isDigit
    let t := if isHex then t.drop 2 else t
    let whole := t.takeWhile test
    let rest := t.drop whole.length
    let (part, rest) := match rest with
      | '.' :: after =>
        let ds := after.takeWhile test
        if whole.isEmpty && ds.isEmpty then ([], rest) else (ds, after.drop ds.length)
      | _ => ([], rest)
    if whole.isEmpty && part.isEmpty then none
    else
      let mark := if isHex then 'p' else 'e'
      let (exponent, rest) : Int × Octets := match rest with
        | c :: after =>
          if c.toLower = mark then
            let (isNegative, ds) := match after with
              | '-' :: ds => (true, ds)
              | '+' :: ds => (false, ds)
              | ds => (false, ds)
            let number := ds.takeWhile Char.isDigit
            if number.isEmpty then (0, rest)
            else
              let n : Int := min 99999 (Octets.nat number)
              (if isNegative then -n else n, ds.drop number.length)
          else (0, rest)
        | [] => (0, rest)
      let base := if isHex then 16 else 10
      let digits := Octets.foldDigits base (whole ++ part)
      let (num, den) :=
        if isHex then Decimal.scale 2 (4 * part.length - exponent) digits 1
        else if digits = 0 then (0, 1)
        else if exponent > 6000 then (Nat.pow 10 6000, 1)
        else if exponent < -6000 then (1, Nat.pow 10 6000)
        else Decimal.scale 10 (part.length - exponent) digits 1
      some (ofFraction size negative num den, rest)

end Real

structure Format where
  left : Bool := false
  plus : Bool := false
  space : Bool := false
  alternate : Bool := false
  zeros : Bool := false
  grouped : Bool := false
  width : Nat := 0
  precision : Option Nat := none
  deriving DecidableEq, Repr

namespace Format

def withMark (f : Format) (c : Char) : Format :=
  match c with
  | '-' => { f with left := true }
  | '+' => { f with plus := true }
  | ' ' => { f with space := true }
  | '#' => { f with alternate := true }
  | '0' => { f with zeros := true }
  | _ => f

def withWidth (f : Format) (n : Int) : Format :=
  if n < 0 then { f with left := true, width := n.natAbs } else { f with width := n.toNat }

def withPrecision (f : Format) (n : Int) : Format :=
  { f with precision := if n < 0 then none else some n.toNat }

def pad (f : Format) (sign body : Octets) (mayHaveZeros : Bool) : Octets :=
  let missing := f.width - (sign.length + body.length)
  if f.left then sign ++ body ++ List.replicate missing ' '
  else if f.zeros && mayHaveZeros then sign ++ List.replicate missing '0' ++ body
  else List.replicate missing ' ' ++ sign ++ body

def text (f : Format) (s : Octets) : Octets :=
  f.pad [] (match f.precision with
    | some n => s.take n
    | none => s) false

def sign (f : Format) (negative : Bool) : Octets :=
  if negative then ['-'] else if f.plus then ['+'] else if f.space then [' '] else []

def whole (f : Format) (sign ds : Octets) (isZero : Bool) : Octets :=
  let ds := if isZero && f.precision = some 0 then [] else ds
  let ds := List.replicate (f.precision.getD 0 - ds.length) '0' ++ ds
  f.pad sign ds f.precision.isNone

def integer (f : Format) (n : Int) : Octets :=
  f.whole (f.sign (n < 0)) (.ofNat n.natAbs) (n = 0)

def unsigned (f : Format) (kind : Char) (n : Nat) : Octets :=
  match kind with
  | 'o' =>
    let ds := Nat.toDigits 8 n
    let ds := if f.alternate && ds.head? ≠ some '0' && f.precision.getD 0 ≤ ds.length then
        '0' :: ds else ds
    if n = 0 && f.alternate then f.whole [] ['0'] false else f.whole [] ds (n = 0)
  | 'x' => f.whole (if f.alternate && n ≠ 0 then ['0', 'x'] else []) (Nat.toDigits 16 n) (n = 0)
  | 'X' =>
    f.whole (if f.alternate && n ≠ 0 then ['0', 'X'] else []) (Octets.toUpper (Nat.toDigits 16 n)) (n = 0)
  | _ => f.whole [] (.ofNat n) (n = 0)

def point (f : Format) (part : Octets) : Octets :=
  if part.isEmpty && !f.alternate then [] else '.' :: part

def fixedBody (f : Format) (num den precision : Nat) : Octets :=
  let (before, behind) := Decimal.places num den precision
  before ++ f.point behind

def exponentText (e : Int) : Octets :=
  (if e < 0 then ['-'] else ['+']) ++ Octets.padLeft '0' 2 (.ofNat e.natAbs)

def scientificBody (f : Format) (ds : Octets) (e : Int) : Octets :=
  ds.take 1 ++ f.point (ds.drop 1) ++ ['e'] ++ exponentText e

def withoutZeros (s : Octets) : Octets := Octets.dropRightWhile (· = '0') s

def generalBody (f : Format) (num den : Nat) : Octets :=
  let precision := max 1 (f.precision.getD 6)
  let (ds, e) := Decimal.scientific num den (precision - 1)
  if e < -4 || e ≥ precision then
    let ds := if f.alternate then ds else ds.take 1 ++ withoutZeros (ds.drop 1)
    f.scientificBody ds e
  else
    let (before, behind) := Decimal.places num den (precision - 1 - e).toNat
    before ++ f.point (if f.alternate then behind else withoutZeros behind)

def hexBody (f : Format) (b : Decimal.Binary) (bits : Nat) : Octets :=
  if b.mantissa = 0 then
    "0x0".toList ++ f.point (List.replicate (f.precision.getD 0) '0') ++ "p+0".toList
  else
    let isLong := bits = 64
    let top := Nat.log2 b.mantissa
    let lead := if isLong then 3 else 0
    let shift := (bits - 1) - top
    let mantissa := b.mantissa * Nat.pow 2 shift
    let exponent := b.exponent - shift + (bits - 1) - lead
    let fractionDigits := if isLong then 15 else 13
    let precision := f.precision.getD fractionDigits
    let unit := Nat.pow 16 (fractionDigits - precision)
    let rounded := Decimal.roundDiv mantissa unit
    let kept := min precision fractionDigits
    let base := Nat.pow 16 kept
    let first := rounded / base
    let part := Octets.inBase 16 kept (rounded % base)
      ++ List.replicate (precision - fractionDigits) '0'
    let part := if f.precision.isNone then withoutZeros part else part
    "0x".toList ++ Nat.toDigits 16 first ++ f.point part ++ ['p']
      ++ (if exponent < 0 then ['-'] else ['+']) ++ .ofNat exponent.natAbs

def real (f : Format) (kind : Char) (x : Real) (bits : Nat := 53) : Octets :=
  let isUpper := kind.isUpper
  let shape (s : Octets) : Octets := if isUpper then s.map Char.toUpper else s
  match x with
  | .infinite negative => f.pad (f.sign negative) (shape "inf".toList) false
  | .notNumber negative => f.pad (f.sign negative) (shape "nan".toList) false
  | .finite negative b =>
    let (num, den) := b.fraction
    let body := match kind.toLower with
      | 'f' => f.fixedBody num den (f.precision.getD 6)
      | 'e' =>
        let (ds, e) := Decimal.scientific num den (f.precision.getD 6)
        f.scientificBody ds e
      | 'a' => f.hexBody b bits
      | _ => f.generalBody num den
    if kind.toLower = 'a' then
      f.pad (f.sign negative ++ shape (body.take 2)) (shape (body.drop 2)) true
    else f.pad (f.sign negative) (shape body) true

end Format

end DeployForge.Shell
