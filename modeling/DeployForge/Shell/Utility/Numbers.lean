import DeployForge.Shell.Format
import DeployForge.Shell.Utility.Files

namespace DeployForge.Shell.Utility

structure Decimal where
  digits : Int
  places : Nat
  deriving DecidableEq, Repr

namespace Decimal

def scaled (d : Decimal) (places : Nat) : Int := d.digits * (Nat.pow 10 (places - d.places) : Nat)

def read? (s : Octets) : Option Decimal :=
  let s := s.dropWhile isSpace
  let (negative, t) := match s with
    | '-' :: rest => (true, rest)
    | '+' :: rest => (false, rest)
    | rest => (false, rest)
  let sign (n : Nat) : Int := if negative then -n else n
  match t with
  | '0' :: 'x' :: ds =>
    if !ds.isEmpty && ds.all isHexDigit then some ⟨sign (Octets.foldDigits 16 ds), 0⟩ else none
  | _ =>
    let whole := t.takeWhile Char.isDigit
    let rest := t.drop whole.length
    let (part, rest) := match rest with
      | '.' :: after =>
        let ds := after.takeWhile Char.isDigit
        (ds, after.drop ds.length)
      | _ => ([], rest)
    if whole.isEmpty && part.isEmpty then none
    else
      let n := sign (Octets.nat (whole ++ part))
      match rest with
      | [] => some ⟨n, part.length⟩
      | e :: rest =>
        if e ≠ 'e' && e ≠ 'E' then none
        else
          match Octets.int? rest with
          | none => none
          | some e =>
            if 0 ≤ e then some ⟨n * (Nat.pow 10 (e.toNat - part.length) : Nat), part.length - e.toNat⟩
            else some ⟨n, part.length + e.natAbs⟩

def real (n : Int) (places : Nat) : Real :=
  Real.ofFraction Real.extended (n < 0) n.natAbs (Nat.pow 10 places)

end Decimal

structure NumberFormat where
  before : Octets
  format : Format
  kind : Char
  after : Octets

namespace NumberFormat

def upToDirective : Octets → Octets × Octets
  | '%' :: '%' :: rest =>
    let (s, rest) := upToDirective rest
    ('%' :: s, rest)
  | '%' :: rest => ([], '%' :: rest)
  | c :: rest =>
    let (s, rest) := upToDirective rest
    (c :: s, rest)
  | [] => ([], [])

def read (s : Octets) : Except Octets NumberFormat :=
  let wrong (text : String) : Except Octets NumberFormat :=
    .error ("format ".toList ++ Quote.always s ++ ' ' :: text.toList)
  match upToDirective s with
  | (_, []) => wrong "has no % directive"
  | (before, _ :: rest) =>
    let marks := rest.takeWhile ("-+#0 '".toList.contains ·)
    let rest := rest.drop marks.length
    let width := rest.takeWhile Char.isDigit
    let rest := rest.drop width.length
    let (precision, rest) : Option Nat × Octets := match rest with
      | '.' :: more =>
        let ds := more.takeWhile Char.isDigit
        (some (Octets.nat ds), more.drop ds.length)
      | _ => (none, rest)
    let rest := if rest.head? = some 'L' then rest.tail else rest
    match rest with
    | [] => wrong "ends in %"
    | kind :: rest =>
      if !"efgaEFGA".toList.contains kind then wrong ("has unknown %" ++ toString kind ++ " directive")
      else
        match upToDirective rest with
        | (after, []) =>
          let format : Format := marks.foldl Format.withMark { width := Octets.nat width, precision }
          .ok { before, format, kind, after }
        | _ => wrong "has too many % directives"

def text (f : NumberFormat) (x : Real) : Octets := f.before ++ f.format.real f.kind x 64 ++ f.after

end NumberFormat

def splitNumbers (isValue : Bool) : List Octets → List Octets
  | [] => []
  | arg :: rest =>
    if isValue then arg :: splitNumbers false rest
    else
      match arg with
      | '-' :: c :: _ =>
        if c.isDigit || c = '.' then ['-', '-'] :: arg :: rest
        else if arg = ['-', '-'] then arg :: rest
        else
          let options := ["-f", "-s", "--format", "--separator"]
          arg :: splitNumbers (options.contains (String.ofList arg)) rest
      | _ => arg :: rest

def seq (c : Call) : Act Nat := do
  let g ← c.optionsOf [.valued "f" "format", .valued "s" "separator", .plain "w" "equal-width"] 1
    false (splitNumbers false c.args)
  if g.operands.isEmpty then c.missingOperand
  match g.operands with
  | _ :: _ :: _ :: extra :: _ => c.extraOperand extra
  | _ => pure ()
  let number (s : Octets) : Act Decimal :=
    match Decimal.read? s with
    | some d => return d
    | none =>
      match Real.read Real.extended s with
      | some (.notNumber _, []) =>
        c.misuse 1 ("invalid 'not-a-number' argument: ".toList ++ Quote.always s)
      | _ => c.misuse 1 ("invalid floating point argument: ".toList ++ Quote.always s)
  let format ← match g.value? "format" with
    | none => pure none
    | some s =>
      match NumberFormat.read s with
      | .ok f =>
        if g.has "equal-width" then
          c.misuseText 1 "format string may not be specified when printing equal width strings"
        pure (some f)
      | .error e => c.fail 1 e
  let one : Octets := ['1']
  let (first, step, last) := match g.operands with
    | [a] => (one, one, a)
    | [a, b] => (a, one, b)
    | a :: s :: b :: _ => (a, s, b)
    | [] => (one, one, one)
  let a ← number first
  let s ← if g.operands.length = 3 then number step else pure ⟨1, 0⟩
  if s.digits = 0 then
    c.misuse 1 ("invalid Zero increment value: ".toList ++ Quote.always step)
  let b ← number last
  let places := max a.places (max s.places b.places)
  let shown := max a.places s.places
  let (low, by_, high) := (a.scaled places, s.scaled places, b.scaled places)
  let count := if 0 < by_ then if high < low then 0 else ((high - low) / by_).toNat + 1
    else if low < high then 0 else ((low - high) / (-by_)).toNat + 1
  let widthOf (s : Octets) (d : Decimal) : Nat :=
    let s := (s.dropWhile isSpace).dropWhile (· = '+')
    let size := s.length + (shown - d.places) - (d.places - shown)
    let size := if d.places = 0 && 0 < shown then size + 1 else size
    if 0 < d.places && shown = 0 then size - 1 else size
  let width := if g.has "equal-width" then max (widthOf first a) (widthOf last b) else 0
  let plain : Format := { zeros := true, width, precision := some shown }
  let text (i : Nat) : Octets :=
    let n := low + by_ * i
    match format with
    | some f => f.text (Decimal.real n places)
    | none =>
      if shown = 0 && places = 0 then plain.pad (if n < 0 then ['-'] else []) (.ofNat n.natAbs) true
      else plain.real 'f' (Decimal.real n places) 64
  let separator := (g.value? "separator").getD ['\n']
  for i in List.range count do
    Act.put (text i ++ if i + 1 = count then ['\n'] else separator)
  return 0

end DeployForge.Shell.Utility
