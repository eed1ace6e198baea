import DeployForge.Shell.Format
import DeployForge.Shell.Utility.Amount
import DeployForge.Shell.Utility.Input

namespace DeployForge.Shell.Utility

structure Comparing where
  ignoresBlanks : Bool := false
  ignoresBlanksAtEnd : Bool := false
  dictionary : Bool := false
  foldsCase : Bool := false
  shownOnly : Bool := false
  kind : Char := ' '
  reverse : Bool := false
  deriving DecidableEq, Repr

namespace Comparing

structure Written where
  negative : Bool
  whole : Octets
  part : Octets

def written (s : Octets) : Written :=
  let s := s.dropWhile isBlank
  let (negative, s) := match s with
    | '-' :: rest => (true, rest)
    | _ => (false, s)
  let whole := s.takeWhile Char.isDigit
  let part := match s.drop whole.length with
    | '.' :: rest => rest.takeWhile Char.isDigit
    | _ => []
  let whole := whole.dropWhile (· = '0')
  let part := Octets.dropRightWhile (· = '0') part
  { negative := negative && !(whole.isEmpty && part.isEmpty), whole, part }

def orderOctets : Octets → Octets → Ordering
  | [], [] => .eq
  | [], _ :: _ => .lt
  | _ :: _, [] => .gt
  | a :: s, b :: t => if a = b then orderOctets s t else compare a.toNat b.toNat

def orderMagnitude (a b : Written) : Ordering :=
  (compare a.whole.length b.whole.length).then
    ((orderOctets a.whole b.whole).then (orderOctets a.part b.part))

def orderWritten (a b : Written) : Ordering :=
  match a.negative, b.negative with
  | true, false => .lt
  | false, true => .gt
  | false, false => orderMagnitude a b
  | true, true => orderMagnitude b a

def unit (s : Octets) : Nat :=
  let s := s.dropWhile isBlank
  let s := if s.head? = some '-' then s.tail else s
  let rest := s.dropWhile fun c => c.isDigit || c = '.'
  match rest.head? with
  | some c => (("KMGTPEZY".toList.findIdx? (· = if c = 'k' then 'K' else c)).map (· + 1)).getD 0
  | none => 0

def orderScaled (a b : Octets) : Ordering :=
  let x := written a
  let y := written b
  let isZero (w : Written) : Bool := w.whole.isEmpty && w.part.isEmpty
  let level (w : Written) (s : Octets) : Int :=
    if isZero w then 0 else if w.negative then -(unit s + 1 : Int) else unit s + 1
  (compare (level x a) (level y b)).then (orderWritten x y)

def months : List String := [
  "JAN", "FEB", "MAR", "APR", "MAY", "JUN", "JUL", "AUG", "SEP", "OCT", "NOV", "DEC"]

def month (s : Octets) : Nat :=
  let name := Octets.toUpper ((s.dropWhile isBlank).take 3)
  ((months.findIdx? (·.toList = name)).map (· + 1)).getD 0

def orderReal (a b : Octets) : Ordering :=
  let value (s : Octets) : Nat × Int × Nat × Nat := match Real.read Real.extended s with
    | none => (0, 0, 0, 1)
    | some (.notNumber _, _) => (1, 0, 0, 1)
    | some (.infinite negative, _) => (2, if negative then -2 else 2, 0, 1)
    | some (.finite negative b, _) =>
      let (num, den) := b.fraction
      (2, if num = 0 then 0 else if negative then -1 else 1, num, den)
  let (k, s, n, d) := value a
  let (l, t, m, e) := value b
  let size := if s < 0 then compare (m * d) (n * e) else compare (n * e) (m * d)
  (compare k l).then ((compare s t).then size)

def versionRank (c : Option Char) : Int :=
  match c with
  | none => -1
  | some c =>
    if c.isDigit then 0 else if c.isAlpha then c.toNat else if c = '~' then -2 else c.toNat + 256

def orderVersionParts : Nat → Octets → Octets → Ordering
  | 0, _, _ => .eq
  | fuel + 1, a, b =>
    if a.isEmpty && b.isEmpty then .eq
    else
      let isText (c : Char) : Bool := !c.isDigit
      let x := a.takeWhile isText
      let y := b.takeWhile isText
      let rank (s : Octets) (i : Nat) (isWhole : Bool) : Int :=
        match s[i]? with
        | some c => versionRank (some c)
        | none => if isWhole then -1 else 0
      let places := List.range (max x.length y.length)
      let texts : Ordering := places.foldl (fun (o : Ordering) i =>
        o.then (compare (rank x i (x.length = a.length)) (rank y i (y.length = b.length))))
        Ordering.eq
      let a := a.drop x.length
      let b := b.drop y.length
      let m := (a.takeWhile Char.isDigit).dropWhile (· = '0')
      let n := (b.takeWhile Char.isDigit).dropWhile (· = '0')
      texts.then (((compare m.length n.length).then (orderOctets m n)).then
        (orderVersionParts fuel (a.dropWhile Char.isDigit) (b.dropWhile Char.isDigit)))

def withoutSuffix (s : Octets) : Octets :=
  let rec go : Nat → Octets → Octets
    | 0, s => s
    | fuel + 1, s =>
      let r := s.reverse
      let ending := r.takeWhile fun c => c.isAlphanum || c = '~'
      match r.drop ending.length, ending.getLast? with
      | '.' :: rest, some c =>
        if (c.isAlpha || c = '~') && !rest.isEmpty then go fuel rest.reverse else s
      | _, _ => s
  go s.length s

def orderVersion (a b : Octets) : Ordering :=
  let hidden (s : Octets) : Nat := if s.head? = some '.' then 0 else 1
  if a = b then .eq
  else
    (compare (if a.isEmpty then 0 else 1) (if b.isEmpty then 0 else 1)).then
      ((compare (hidden a) (hidden b)).then
        (let fuel := a.length + b.length + 1
        (orderVersionParts fuel (withoutSuffix a) (withoutSuffix b)).then
          (orderVersionParts fuel a b)))

def kept (k : Comparing) (s : Octets) : Octets :=
  let s := if k.dictionary then s.filter fun c => isBlank c || c.isAlphanum else s
  let s := if k.shownOnly then s.filter isShown else s
  if k.foldsCase then s.map Char.toUpper else s

def order (k : Comparing) (a b : Octets) : Ordering :=
  let result := match k.kind with
    | 'n' => orderWritten (written a) (written b)
    | 'g' => orderReal a b
    | 'h' => orderScaled a b
    | 'M' => compare (month a) (month b)
    | 'V' => orderVersion a b
    | _ => orderOctets (k.kept a) (k.kept b)
  if k.reverse then result.swap else result

def withLetter? (k : Comparing) (c : Char) : Option Comparing :=
  match c with
  | 'b' => some { k with ignoresBlanks := true, ignoresBlanksAtEnd := true }
  | 'd' => some { k with dictionary := true }
  | 'f' => some { k with foldsCase := true }
  | 'i' => some { k with shownOnly := true }
  | 'n' | 'g' | 'h' | 'M' | 'V' | 'R' => some { k with kind := c }
  | 'r' => some { k with reverse := true }
  | _ => none

end Comparing

end DeployForge.Shell.Utility
