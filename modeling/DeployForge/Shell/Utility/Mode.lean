import DeployForge.Shell.Storage

namespace DeployForge.Shell.Mode

structure Change where
  /-- The bits that it may touch. Zero stands for those that the mask leaves. -/
  who : Nat
  operator : Char
  rights : List Char
  deriving DecidableEq, Repr

inductive Spec where
  | exact (bits : Nat) (digits : Nat)
  | changes (cs : List Change)
  deriving DecidableEq, Repr

def all : Nat := 4095

def whoBits (c : Char) : Option Nat :=
  match c with
  | 'u' => some 2496
  | 'g' => some 1080
  | 'o' => some 519
  | 'a' => some all
  | _ => none

def readChanges (who : Nat) : Nat → List Char → Option (List Change)
  | 0, _ => none
  | _, [] => some []
  | fuel + 1, c :: rest =>
    if "+-=".toList.contains c then
      match rest with
      | d :: after =>
        if "ugo".toList.contains d then do
          return ⟨who, c, [d]⟩ :: (← readChanges who fuel after)
        else
          let rights := rest.takeWhile ("rwxXst".toList.contains ·)
          do return ⟨who, c, rights⟩ :: (← readChanges who fuel (rest.drop rights.length))
      | [] => some [⟨who, c, []⟩]
    else none

def readClause (s : List Char) : Option (List Change) :=
  let letters := s.takeWhile fun c => (whoBits c).isSome
  let who := letters.foldl (fun n c => n ||| (whoBits c).getD 0) 0
  match s.drop letters.length with
  | [] => none
  | rest => readChanges who (rest.length + 1) rest

def read? (s : Octets) : Option Spec :=
  if s.head?.map isOctal = some true then
    let n := Octets.foldDigits 8 s
    if s.all isOctal && n ≤ all then some (.exact n s.length) else none
  else
    match (Text.splitAt ',' s).mapM readClause with
    | some cs => some (.changes cs.flatten)
    | none => none

def copied (who : Char) (bits : Nat) : Nat :=
  let three := match who with
    | 'u' => bits / 64 % 8
    | 'g' => bits / 8 % 8
    | _ => bits % 8
  three * 73

def rightBits (isDirectory : Bool) (bits : Nat) (c : Char) : Nat :=
  match c with
  | 'r' => 292
  | 'w' => 146
  | 'x' => 73
  | 'X' => if isDirectory || bits &&& 73 ≠ 0 then 73 else 0
  | 's' => 3072
  | 't' => 512
  | _ => copied c bits

def applyChange (isDirectory : Bool) (umask bits : Nat) (c : Change) : Nat :=
  let value := c.rights.foldl (fun n r => n ||| rightBits isDirectory bits r) 0
  let reach := if c.who = 0 then all - umask else c.who
  let value := value &&& reach
  match c.operator with
  | '+' => bits ||| value
  | '-' => bits &&& (all - value)
  | _ =>
    let reach := if c.who = 0 then all else c.who
    let kept := if isDirectory then
        bits &&& (all - reach ||| (if c.rights.contains 's' then 0 else 3072))
      else bits &&& (all - reach)
    kept ||| value

def Spec.apply (spec : Spec) (isDirectory : Bool) (umask bits : Nat) : Nat :=
  match spec with
  | .exact n digits => if isDirectory && digits < 5 then n ||| (bits &&& 3072) else n
  | .changes cs => cs.foldl (applyChange isDirectory umask) bits

def letters (bits : Nat) : Octets :=
  let right (mask : Nat) (c : Char) : Char := if bits &&& mask ≠ 0 then c else '-'
  let last (mask special : Nat) (small large : Char) : Char :=
    if bits &&& special ≠ 0 then if bits &&& mask ≠ 0 then small else large
    else right mask 'x'
  [right 256 'r', right 128 'w', last 64 2048 's' 'S', right 32 'r', right 16 'w',
    last 8 1024 's' 'S', right 4 'r', right 2 'w', last 1 512 't' 'T']

def kindLetter : Entry → Char
  | .directory => 'd'
  | .link _ => 'l'
  | .device _ => 'c'
  | _ => '-'

end DeployForge.Shell.Mode
