import DeployForge.Shell.Awk
import DeployForge.Shell.Format

namespace DeployForge.Shell.Awk

inductive Value where
  | unset
  | number (x : Float)
  | text (s : Octets)
  /-- A text that was read. It counts as a number if it looks like one. -/
  | read (s : Octets)
  deriving Inhabited

def whole (x : Float) : Int :=
  match Real.ofFloat x with
  | .finite negative b =>
    let n := if b.exponent ≥ 0 then b.mantissa * Nat.pow 2 b.exponent.toNat
      else b.mantissa / Nat.pow 2 (-b.exponent).toNat
    if negative then -(n : Int) else n
  | .infinite negative => if negative then -(Nat.pow 2 70 : Int) else Nat.pow 2 70
  | .notNumber _ => -(Nat.pow 2 70 : Int)

def isWhole (x : Float) : Bool :=
  match Real.ofFloat x with
  | .finite _ b => b.exponent ≥ 0 || b.mantissa % Nat.pow 2 (-b.exponent).toNat = 0
  | _ => false

def leadingNumber (s : Octets) : Float :=
  match Real.read Real.double s with
  | some (x, _) => x.toFloat
  | none => 0

def looksLikeNumber? (s : Octets) : Option Float :=
  let t := Octets.dropRightWhile isSpace (s.dropWhile isSpace)
  let unsigned := match t with
    | c :: rest => if c = '-' || c = '+' then rest else t
    | [] => []
  let isDigits := match unsigned with
    | '.' :: d :: _ => d.isDigit
    | d :: _ => d.isDigit
    | [] => false
  if !isDigits then none
  else if t.length < 16 && t.all Char.isDigit then some (Float.ofNat (Octets.nat t))
  else
    match Real.read Real.double t with
    | some (x, []) => some x.toFloat
    | _ => none

def remainder (x y : Float) : Float :=
  match Real.ofFloat x, Real.ofFloat y with
  | .finite negative a, .finite _ b =>
    if b.mantissa = 0 then 0.0 / 0.0
    else
      let e := min a.exponent b.exponent
      let m := a.mantissa * Nat.pow 2 (a.exponent - e).toNat
      let n := b.mantissa * Nat.pow 2 (b.exponent - e).toNat
      let r := m % n
      (if e ≥ 0 then Real.ofFraction Real.double negative (r * Nat.pow 2 e.toNat) 1
        else Real.ofFraction Real.double negative r (Nat.pow 2 (-e).toNat)).toFloat
  | .finite _ _, .infinite _ => x
  | _, _ => 0.0 / 0.0

def Operator.apply (op : Operator) (x y : Float) : Float :=
  match op with
  | add => x + y
  | sub => x - y
  | mul => x * y
  | div => x / y
  | rem => remainder x y
  | pow => Float.pow x y

def mostUnsigned : Int := 18446744073709551615

def wholeText? (x : Float) : Option Octets :=
  if isWhole x then
    let n := whole x
    if -9223372036854775808 ≤ n && n ≤ mostUnsigned + 1 then
      some (Octets.ofInt (min n mostUnsigned))
    else none
  else none

namespace Value

def toNumber : Value → Float
  | unset => 0
  | number x => x
  | text s => leadingNumber s
  | read s => (looksLikeNumber? s).getD (leadingNumber s)

def isTrue : Value → Bool
  | unset => false
  | number x => x != 0
  | text s => !s.isEmpty
  | read s =>
    match looksLikeNumber? s with
    | some x => x != 0
    | none => !s.isEmpty

def number? : Value → Option Float
  | unset => some 0
  | number x => some x
  | text _ => none
  | read s => looksLikeNumber? s

end Value

def orderNumbers (x y : Float) : Ordering := if x < y then .lt else if x == y then .eq else .gt

def orderTexts (s t : Octets) : Ordering :=
  if s = t then .eq else if Octets.atMost s t then .lt else .gt

inductive FormatFault where
  | tooFew
  | improper (n : Nat)
  deriving DecidableEq, Repr

def usualFormat : Octets := "%.6g".toList

def formatOne (f : Format) (kind : Char) (v : Value) (asText : Value → Octets) : Octets :=
  match kind with
  | 'd' | 'i' =>
    let n := whole v.toNumber
    f.integer (if n ≤ -9223372036854775808 then -9223372036854775807 else min n mostUnsigned)
  | 'o' | 'x' | 'X' | 'u' =>
    let n := whole v.toNumber
    f.unsigned kind ((min n mostUnsigned) % (mostUnsigned + 1)).toNat
  | 'c' =>
    let s : Octets := match v with
      | .number x => [octet (whole x % 256).toNat]
      | v => (asText v).take 1
    f.pad [] (if s.isEmpty then ['\x00'] else s) false
  | 's' => f.text (asText v)
  | _ => f.real kind (Real.ofFloat v.toNumber)

def formatValues (asText : Value → Octets) :
    Nat → Nat → Octets → List Value → List Octets → List Octets × Option FormatFault
  | 0, _, _, _, done | _, _, [], _, done => (done, none)
  | fuel + 1, n, '%' :: rest, vs, done =>
    match rest with
    | '%' :: rest => formatValues asText fuel n rest vs (['%'] :: done)
    | _ =>
      let marks := rest.takeWhile ("-+ #0".toList.contains ·)
      let after := rest.drop marks.length
      let f : Format := marks.foldl Format.withMark {}
      let number (s : Octets) (vs : List Value) : Option (Option Int × Octets × List Value) :=
        match s with
        | '*' :: rest =>
          match vs with
          | v :: vs => some (some (whole v.toNumber), rest, vs)
          | [] => none
        | _ =>
          let ds := s.takeWhile Char.isDigit
          some (if ds.isEmpty then none else some (Octets.nat ds), s.drop ds.length, vs)
      match number after vs with
      | none => (done, some .tooFew)
      | some (width, after, vs) =>
        let f := f.withWidth (width.getD 0)
        let precise : Option (Option Int × Octets × List Value) := match after with
          | '.' :: after => (number after vs).map fun (p, rest) => (some (p.getD 0), rest)
          | _ => some (none, after, vs)
        match precise with
        | none => (done, some .tooFew)
        | some (precision, after, vs) =>
          let f := match precision with
            | some p => f.withPrecision p
            | none => f
          let after := after.dropWhile fun c => c = 'l' || c = 'h'
          match after with
          | [] => (done, some (.improper n))
          | kind :: after =>
            if !"dioxXucsfeEgG".toList.contains kind then (done, some (.improper n))
            else
              match vs with
              | [] => (done, some .tooFew)
              | v :: vs =>
                formatValues asText fuel (n + 1) after vs (formatOne f kind v asText :: done)
  | fuel + 1, n, c :: rest, vs, done =>
    let plain := c :: rest.takeWhile (· ≠ '%')
    formatValues asText fuel n (rest.drop (plain.length - 1)) vs (plain :: done)

def numberText (format : Octets) (x : Float) : Octets :=
  match wholeText? x with
  | some s => s
  | none =>
    if x.isNaN then "-nan".toList
    else if format = usualFormat then ({ precision := some 6 } : Format).real 'g' (Real.ofFloat x)
    else ((formatValues (fun _ => []) (format.length + 1) 1 format [.number x] []).1.reverse).flatten

def Value.toText (format : Octets) : Value → Octets
  | unset => []
  | number x => numberText format x
  | text s | read s => s

def Value.order (format : Octets) (v w : Value) : Ordering :=
  match v, w with
  | unset, text s => orderTexts [] s
  | text s, unset => orderTexts s []
  | _, _ =>
    match v.number?, w.number? with
    | some x, some y => orderNumbers x y
    | _, _ => orderTexts (v.toText format) (w.toText format)

end DeployForge.Shell.Awk
