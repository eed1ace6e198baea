import DeployForge.Shell.Arithmetic
import DeployForge.Shell.Channel
import DeployForge.Shell.Escape
import DeployForge.Shell.Format

namespace DeployForge.Shell.Builtin

open Act

/-- The arguments with their backslashes read, one after another, up to a `\c`. -/
def echoTexts : List Octets → Octets
  | [] => ['\n']
  | [s] =>
    let (t, isEnded) := Escape.text s
    if isEnded then t else t ++ ['\n']
  | s :: rest =>
    let (t, isEnded) := Escape.text s
    if isEnded then t else t ++ ' ' :: echoTexts rest

def echo (args : List Octets) : Act Nat := do
  match args with
  | ['-', 'n'] :: args =>
    let s := echoTexts args
    put (if s.getLast? = some '\n' && !(args.any fun arg => (Escape.text arg).2) then s.dropLast else s)
  | args => put (echoTexts args)
  return 0

structure Printing where
  args : List Octets
  status : Nat := 0

abbrev Print := StateT Printing Act

namespace Print

def nextArg : Print (Option Octets) := do
  match (← get).args with
  | [] => return none
  | arg :: args =>
    modify fun p => { p with args }
    return some arg

def warned (arg : Octets) (text : String) : Print Unit := do
  warn (arg ++ ": ".toList ++ text.toList)
  modify fun p => { p with status := 1 }

def checked (arg rest : Octets) (hasDigits isInRange : Bool) : Print Unit := do
  if !rest.isEmpty then
    warned arg (if hasDigits then "not completely converted" else "expected numeric value")
  else if !isInRange then warned arg "Numerical result out of range"

def integer (isSigned : Bool) : Print Int := do
  match ← nextArg with
  | none => return 0
  | some arg =>
    match arg with
    | '"' :: rest | '\'' :: rest => return (rest.head?.map Char.toNat).getD 0
    | _ =>
      let (n, rest, hasDigits) := Arithmetic.signed arg
      let limit : Int := if isSigned then Arithmetic.largest else 18446744073709551615
      let least : Int := if isSigned then Arithmetic.smallest else -18446744073709551615
      checked arg (if hasDigits then rest else arg) hasDigits (least ≤ n && n ≤ limit)
      return if isSigned then Arithmetic.clamp n else if n > limit then limit else n

def real : Print Real := do
  match ← nextArg with
  | none => return .finite false ⟨0, 0⟩
  | some arg =>
    match arg with
    | '"' :: rest | '\'' :: rest =>
      return .finite false ⟨(rest.head?.map Char.toNat).getD 0, 0⟩
    | _ =>
      match Real.read Real.double arg with
      | some (x, rest) =>
        checked arg rest true true
        return x
      | none =>
        checked arg arg false true
        return .finite false ⟨0, 0⟩

def count (s : Octets) : Print (Int × Octets) := do
  match s with
  | '*' :: rest => return (← integer true, rest)
  | _ =>
    let ds := s.takeWhile fun c => c.isDigit || c = '*'
    return (Octets.nat (ds.takeWhile Char.isDigit), s.drop ds.length)

def directive (s : Octets) : Print (Option Octets) := do
  let marks := s.takeWhile fun c => "#-+ 0".toList.contains c
  let f : Format := marks.foldl Format.withMark {}
  let (width, rest) ← count (s.drop marks.length)
  let f := f.withWidth width
  let (f, rest) ← match rest with
    | '.' :: after => do
      let (n, rest) ← count after
      pure (f.withPrecision n, rest)
    | _ => pure (f, rest)
  match rest with
  | [] => failText "missing format character"
  | kind :: after =>
    match kind with
    | 's' =>
      put (f.text ((← nextArg).getD []))
      return some after
    | 'b' =>
      let (t, isEnded) := Escape.text ((← nextArg).getD [])
      put (f.text t)
      return if isEnded then none else some after
    | 'c' =>
      put ({ f with precision := none }.text ((((← nextArg).getD []).take 1) ++ ['\x00'] |>.take 1))
      return some after
    | 'd' | 'i' =>
      put (f.integer (← integer true))
      return some after
    | 'o' | 'u' | 'x' | 'X' =>
      let n ← integer false
      put (f.unsigned kind (n % 18446744073709551616).toNat)
      return some after
    | 'a' | 'A' | 'e' | 'E' | 'f' | 'F' | 'g' | 'G' =>
      put (f.real kind (← real))
      return some after
    | _ => fail ('%' :: s.take (s.length - after.length) ++ ": invalid directive".toList)

def pass : Nat → Octets → Print Bool
  | 0, _ => throw .exhausted
  | _, [] => return true
  | fuel + 1, c :: rest => do
    if c = '\\' then
      let (d, rest) := Escape.inFormat rest
      put [d]
      pass fuel rest
    else if c = '%' then
      match rest with
      | '%' :: rest =>
        put ['%']
        pass fuel rest
      | _ =>
        match ← directive rest with
        | some rest => pass fuel rest
        | none => return false
    else
      let text := (c :: rest).takeWhile fun c => c ≠ '\\' && c ≠ '%'
      put text
      pass fuel ((c :: rest).drop text.length)

def passes (format : Octets) : Nat → Print Unit
  | 0 => return ()
  | fuel + 1 => do
    let before := (← get).args.length
    if ← pass (format.length + 1) format then
      let left := (← get).args.length
      if left ≠ 0 && left ≠ before then passes format fuel

end Print

def printf (args : List Octets) : Act Nat := do
  match if args.head? = some ['-', '-'] then args.tail else args, args.head? with
  | [], _ => failText "usage: printf format [arg ...]"
  | format :: args, first =>
    match format with
    | '-' :: c :: _ =>
      if first = some format then fail ("Illegal option -".toList ++ [c])
    | _ => pure ()
    let ((), p) ← (Print.passes format (args.length + 1)).run { args }
    return p.status

end DeployForge.Shell.Builtin
