import DeployForge.Shell.Arithmetic
import DeployForge.Shell.Escape
import DeployForge.Shell.Format
import DeployForge.Shell.Utility.Input

namespace DeployForge.Shell.Utility

def isEchoOption : Octets → Bool
  | '-' :: c :: cs => (c :: cs).all ("neE".toList.contains ·)
  | _ => false

def echo (c : Call) : Act Nat := do
  let options := c.args.takeWhile isEchoOption
  let words := c.args.drop options.length
  let letters := options.flatMap List.tail
  let reads := (letters.reverse.find? fun l => l = 'e' || l = 'E') = some 'e'
  let text := Octets.join [' '] words
  let (text, isEnded) := if reads then Escape.wider false text else (text, false)
  Act.put (text ++ if letters.contains 'n' || isEnded then [] else ['\n'])
  return 0

structure Supply where
  args : List Octets
  status : Nat := 0

abbrev Fill := StateT Supply Act

namespace Fill

def next : Fill (Option Octets) := do
  match (← get).args with
  | [] => return none
  | arg :: args =>
    modify fun p => { p with args }
    return some arg

def wrong (c : Call) (arg : Octets) (text : String) : Fill Unit := do
  c.complain (Quote.always arg ++ ": ".toList ++ text.toList)
  modify fun p => { p with status := 1 }

def integer (c : Call) (isSigned : Bool) : Fill Int := do
  match ← next with
  | none => return 0
  | some arg =>
    match arg with
    | '"' :: ch :: rest | '\'' :: ch :: rest =>
      if !rest.isEmpty then
        c.complain ("warning: ".toList ++ rest
          ++ ": character(s) following character constant have been ignored".toList)
      return (ch.toNat : Int)
    | _ =>
      let (n, rest, hasDigits) := Arithmetic.signed arg
      let limit : Int := if isSigned then Arithmetic.largest else 18446744073709551615
      let least : Int := if isSigned then Arithmetic.smallest else -18446744073709551615
      if !arg.isEmpty then
        if !hasDigits then wrong c arg "expected a numeric value"
        else if n < least || limit < n then wrong c arg "Numerical result out of range"
        else if !rest.isEmpty then wrong c arg "value not completely converted"
      return if isSigned then Arithmetic.clamp n else if n > limit then limit else n

def real (c : Call) : Fill Real := do
  match ← next with
  | none | some [] => return .finite false ⟨0, 0⟩
  | some arg =>
    match arg with
    | '"' :: ch :: _ | '\'' :: ch :: _ => return Real.ofFraction Real.extended false ch.toNat 1
    | _ =>
      match Real.read Real.extended arg with
      | some (x, rest) =>
        if !rest.isEmpty then wrong c arg "value not completely converted"
        return x
      | none =>
        wrong c arg "expected a numeric value"
        return .finite false ⟨0, 0⟩

def count (c : Call) (s : Octets) : Fill (Option Int × Octets) := do
  match s with
  | '*' :: rest => return (some (← integer c true), rest)
  | _ =>
    let ds := s.takeWhile Char.isDigit
    return (if ds.isEmpty then none else some (Octets.nat ds : Int), s.drop ds.length)

def directive (c : Call) (s : Octets) : Fill (Option Octets) := do
  let bad {α : Type} (rest : Octets) : Fill α := do
    let text := s.take (s.length - rest.length + 1)
    c.fail 1 ('%' :: text ++ ": invalid conversion specification".toList)
  let marks := s.takeWhile fun ch => "-+ #0'I".toList.contains ch
  let f : Format := marks.foldl Format.withMark {}
  let (width, rest) ← count c (s.drop marks.length)
  let f := f.withWidth (width.getD 0)
  let (f, rest) ← match rest with
    | '.' :: after => do
      let (n, rest) ← count c after
      pure (f.withPrecision (n.getD 0), rest)
    | _ => pure (f, rest)
  let rest := rest.dropWhile ("lLhjtz".toList.contains ·)
  match rest with
  | [] => bad []
  | kind :: after =>
    match kind with
    | 's' =>
      Act.put (f.text ((← next).getD []))
      return some after
    | 'b' =>
      let (t, isEnded) := Escape.wider false ((← next).getD [])
      Act.put t
      return if isEnded then none else some after
    | 'q' =>
      Act.put (f.text (Quote.name ((← next).getD [])))
      return some after
    | 'c' =>
      let ch := (((← next).getD []).head?).getD '\x00'
      Act.put ({ f with precision := none }.text [ch])
      return some after
    | 'd' | 'i' =>
      Act.put (f.integer (← integer c true))
      return some after
    | 'o' | 'u' | 'x' | 'X' =>
      let n ← integer c false
      Act.put (f.unsigned kind (n % 18446744073709551616).toNat)
      return some after
    | 'a' | 'A' | 'e' | 'E' | 'f' | 'F' | 'g' | 'G' =>
      Act.put (f.real kind (← real c) 64)
      return some after
    | _ => bad rest

def pass (c : Call) : Nat → Octets → Fill Bool
  | 0, _ => throw .exhausted
  | _, [] => return true
  | fuel + 1, ch :: rest => do
    if ch = '%' then
      match rest with
      | '%' :: rest =>
        Act.put ['%']
        pass c fuel rest
      | _ =>
        match ← directive c rest with
        | some rest => pass c fuel rest
        | none => return false
    else
      let text := (ch :: rest).takeWhile (· ≠ '%')
      match cutEscape text with
      | none =>
        let (t, isEnded) := Escape.wider true text
        Act.put t
        if isEnded then return false
        pass c fuel ((ch :: rest).drop text.length)
      | some before =>
        Act.put (Escape.wider true before).1
        c.failText 1 "missing hexadecimal number in escape"
where
  cutEscape : Octets → Option Octets
    | '\\' :: 'x' :: rest =>
      if (rest.head?.map isHexDigit).getD false then
        (cutEscape rest).map fun s => '\\' :: 'x' :: s
      else some []
    | '\\' :: ch :: rest => (cutEscape rest).map fun s => '\\' :: ch :: s
    | ch :: rest => (cutEscape rest).map (ch :: ·)
    | [] => none

def passes (c : Call) (format : Octets) : Nat → Fill Unit
  | 0 => return ()
  | fuel + 1 => do
    let before := (← get).args.length
    if ← pass c (format.length + 1) format then
      match (← get).args with
      | [] => return ()
      | arg :: rest =>
        if rest.length + 1 = before then
          c.complain ("warning: ignoring excess arguments, starting with ".toList ++ Quote.always arg)
        else passes c format fuel

end Fill

def printf (c : Call) : Act Nat := do
  let args := if c.args.head? = some ['-', '-'] then c.args.tail else c.args
  match args with
  | [] => c.missingOperand
  | format :: args =>
    let ((), p) ← (Fill.passes c format (args.length + 1)).run { args }
    return p.status

end DeployForge.Shell.Utility
