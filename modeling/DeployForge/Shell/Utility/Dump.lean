import DeployForge.Shell.Format
import DeployForge.Shell.Utility.Amount
import DeployForge.Shell.Utility.Input

namespace DeployForge.Shell.Utility

inductive Shown where
  | named
  | char
  | signed
  | unsigned
  | octal
  | hexadecimal
  | real
  deriving DecidableEq, Repr

structure Column where
  shown : Shown
  size : Nat
  trails : Bool := false
  deriving DecidableEq, Repr

namespace Column

def width (c : Column) : Nat :=
  let pick (sizes : List Nat) : Nat := match c.size with
    | 1 => sizes[0]?.getD 0
    | 2 => sizes[1]?.getD 0
    | 4 => sizes[2]?.getD 0
    | _ => sizes[3]?.getD 0
  match c.shown with
  | .named | .char => 3
  | .octal => pick [3, 6, 11, 22]
  | .signed => pick [4, 6, 11, 20]
  | .unsigned => pick [3, 5, 10, 20]
  | .hexadecimal => pick [2, 4, 8, 16]
  | .real => if c.size = 4 then 15 else 24

def charNames : List String := [
  "nul", "soh", "stx", "etx", "eot", "enq", "ack", "bel", "bs", "ht", "nl", "vt", "ff", "cr", "so",
  "si", "dle", "dc1", "dc2", "dc3", "dc4", "nak", "syn", "etb", "can", "em", "sub", "esc", "fs",
  "gs", "rs", "us", "sp"]

def charText (c : Char) : Octets :=
  match c with
  | '\x00' => "\\0".toList
  | _ =>
    match Quote.letter? c with
    | some l => ['\\', l]
    | none => if isShown c then [c] else Octets.inBase 8 3 c.toNat

def realOf (size n : Nat) : Real :=
  if size = 8 then .ofFloat (Float.ofBits (UInt64.ofNat n))
  else .ofFloat (Float32.ofBits (UInt32.ofNat n)).toFloat

def realText (size n : Nat) : Octets :=
  let x := realOf size n
  let show_ (digits : Nat) : Octets := ({ precision := some digits } : Format).real 'g' x
  let same (digits : Nat) : Bool :=
    match Real.read Real.double (show_ digits) with
    | some (y, _) =>
      if size = 8 then y.toFloat.toBits.toNat = n
      else y.toFloat.toFloat32.toBits.toNat = n
    | none => true
  let least := if size = 4 then 6 else 15
  let digits := ((List.range 4).map (· + least)).find? same |>.getD (least + 3)
  show_ digits

def text (c : Column) (bytes : Octets) : Octets :=
  let n := bytes.foldr (fun b n => n * 256 + b.toNat) 0
  let half := Nat.pow 2 (8 * c.size - 1)
  match c.shown with
  | .named =>
    let k := n % 128
    if k = 127 then "del".toList
    else match charNames[k]? with
      | some s => s.toList
      | none => [octet k]
  | .char => charText (octet n)
  | .octal => Octets.inBase 8 c.width n
  | .hexadecimal => Octets.inBase 16 c.width n
  | .unsigned => .ofNat n
  | .signed => .ofInt (if n < half then n else (n : Int) - 2 * half)
  | .real => realText c.size n

end Column

def columnSize (shown : Shown) (s : Octets) : Nat × Octets :=
  let digits := s.takeWhile Char.isDigit
  if !digits.isEmpty then (Octets.nat digits, s.drop digits.length)
  else
    match shown, s with
    | .real, 'F' :: rest => (4, rest)
    | .real, 'D' :: rest => (8, rest)
    | .real, rest => (8, rest)
    | _, 'C' :: rest => (1, rest)
    | _, 'S' :: rest => (2, rest)
    | _, 'I' :: rest => (4, rest)
    | _, 'L' :: rest => (8, rest)
    | _, rest => (4, rest)

inductive ColumnFault where
  | unknown (kind : Char)
  | size (n : Nat) (isReal : Bool)

def ColumnFault.text (s : Octets) : ColumnFault → Octets
  | .unknown kind =>
    "invalid character '".toList ++ kind :: "' in type string ".toList ++ Quote.text s
  | .size n isReal =>
    "invalid type string ".toList ++ Quote.text s ++ ";\nthis system doesn't provide a ".toList
      ++ Octets.ofNat n ++ (if isReal then "-byte floating point type" else
        "-byte integral type").toList

def readColumns : Nat → Octets → Except ColumnFault (List Column)
  | 0, _ => .ok []
  | _, [] => .ok []
  | fuel + 1, kind :: rest => do
    let shown ← match kind with
      | 'a' => .ok Shown.named
      | 'c' => .ok .char
      | 'd' => .ok .signed
      | 'u' => .ok .unsigned
      | 'o' => .ok .octal
      | 'x' => .ok .hexadecimal
      | 'f' => .ok .real
      | _ => .error (.unknown kind)
    let (size, rest) := if kind = 'a' || kind = 'c' then (1, rest) else columnSize shown rest
    if !([1, 2, 4, 8].contains size) || shown = .real && size < 4 then
      .error (.size size (shown = .real))
    let (trails, rest) := match rest with
      | 'z' :: rest => (true, rest)
      | rest => (false, rest)
    return { shown, size, trails } :: (← readColumns fuel rest)

def oldColumns : List (String × Column) := [
  ("a", ⟨.named, 1, false⟩), ("b", ⟨.octal, 1, false⟩), ("c", ⟨.char, 1, false⟩),
  ("d", ⟨.unsigned, 2, false⟩), ("f", ⟨.real, 4, false⟩), ("i", ⟨.signed, 4, false⟩),
  ("l", ⟨.signed, 8, false⟩), ("o", ⟨.octal, 2, false⟩), ("s", ⟨.signed, 2, false⟩),
  ("x", ⟨.hexadecimal, 2, false⟩), ("B", ⟨.octal, 2, false⟩), ("D", ⟨.unsigned, 4, false⟩),
  ("e", ⟨.real, 8, false⟩), ("F", ⟨.real, 8, false⟩), ("h", ⟨.hexadecimal, 2, false⟩),
  ("H", ⟨.hexadecimal, 4, false⟩), ("I", ⟨.signed, 8, false⟩), ("L", ⟨.signed, 8, false⟩),
  ("O", ⟨.octal, 4, false⟩), ("X", ⟨.hexadecimal, 4, false⟩)]

structure Dumping where
  radix : Char
  width : Nat
  columns : List Column
  showsAll : Bool
  isBig : Bool

namespace Dumping

def address (d : Dumping) (n : Nat) : Octets :=
  match d.radix with
  | 'd' => Octets.padLeft '0' 7 (.ofNat n)
  | 'x' => Octets.inBase 16 6 n
  | 'n' => []
  | _ => Octets.inBase 8 7 n

def blockWidth (d : Dumping) : Nat :=
  (d.columns.map fun c => (c.width + 1) * (d.width / c.size)).foldl max 0

def columnText (d : Dumping) (c : Column) (line : Octets) : Octets :=
  let fields := d.width / c.size
  let pad := d.blockWidth - c.width * fields
  let groups := Octets.chunks c.size line
  let shown := groups.zipIdx.flatMap fun (bytes, i) =>
    let left := fields - i
    let here := pad * left / fields - pad * (left - 1) / fields
    let filled := bytes ++ List.replicate (c.size - bytes.length) '\x00'
    Octets.padLeft ' ' (here + c.width) (c.text (if d.isBig then filled.reverse else bytes))
  let filled := if c.trails then
      let left := fields - groups.length
      let rest := c.width * left + pad * left / fields
      shown ++ List.replicate rest ' ' ++ "  >".toList
        ++ line.map (fun b => if isShown b then b else '.') ++ ['<']
    else shown
  filled

def lineText (d : Dumping) (n : Nat) (line : Octets) : Octets :=
  (d.columns.zipIdx.flatMap fun (c, i) =>
    let front := if i = 0 then d.address n else List.replicate (d.address n).length ' '
    front ++ d.columnText c line ++ ['\n'])

/-- All lines. Those that are the same as the one before are shown as a star. -/
def go (d : Dumping) : Nat → Option Octets → Bool → List Octets → List Octets
  | n, _, _, [] => [if d.radix = 'n' then [] else d.address n ++ ['\n']]
  | n, last, isStarred, line :: rest =>
    if last = some line && !d.showsAll && line.length = d.width then
      (if isStarred then [] else "*\n".toList) :: d.go (n + line.length) last true rest
    else d.lineText n line :: d.go (n + line.length) (some line) false rest

end Dumping

def od (c : Call) : Act Nat := do
  let g ← c.options ([.valued "A" "address-radix", .valued "j" "skip-bytes",
    .valued "N" "read-bytes", .optional "S" "strings", .valued "t" "format",
    .plain "v" "output-duplicates", .optional "w" "width", .plain "" "traditional",
    .valued "" "endian"] ++ "abcdfiloxsBDeFhHILOX".toList.map fun l => .plain (toString l) "")
  let radix ← match g.value? "address-radix" with
    | none => pure 'o'
    | some s =>
      match s with
      | [r] => if "doxn".toList.contains r then pure r else
          c.fail 1 ("invalid output address radix '".toList ++ s
            ++ "'; it must be one character from [doxn]".toList)
      | _ => c.fail 1 ("invalid output address radix '".toList ++ s
          ++ "'; it must be one character from [doxn]".toList)
  let mut asked : List Column := []
  for (name, value) in g.options do
    match oldColumns.lookup name, value with
    | some column, _ => asked := asked ++ [column]
    | none, some s =>
      if name = "format" then
        match readColumns (s.length + 1) s with
        | .ok cs => asked := asked ++ cs
        | .error e => c.fail 1 (e.text s)
    | none, none => pure ()
  let columns := if asked.isEmpty then [⟨.octal, 2, false⟩] else asked
  let amount (name : String) : Act (Option Nat) := do
    match g.value? name with
    | none => return none
    | some s =>
      let n := match s with
        | '0' :: 'x' :: ds => if ds.all isHexDigit then some (Octets.foldDigits 16 ds) else none
        | _ => Amount.read? s
      match n with
      | some n => return some n
      | none =>
        let letter := if name = "skip-bytes" then "-j" else if name = "width" then "-w" else "-N"
        c.fail 1 ("invalid ".toList ++ letter.toList ++ " argument ".toList ++ Quote.text s)
  let skip ← amount "skip-bytes"
  let most ← amount "read-bytes"
  let unit := (columns.map (·.size)).foldl Nat.lcm 1
  let width := (← amount "width").getD (if g.has "width" then 32 else 16)
  let width := if width = 0 || width % unit ≠ 0 then unit else width
  let mut status := 0
  let mut input : Octets := []
  for name in if g.operands.isEmpty then [['-']] else g.operands do
    match ← c.read name with
    | .ok s => input := input ++ s
    | .error e =>
      c.complainOf name e
      status := 1
  let skipped := skip.getD 0
  if input.length < skipped then c.failText 1 "cannot skip past end of combined input"
  let text := input.drop skipped
  let text := match most with
    | some n => text.take n
    | none => text
  if status = 1 && text.isEmpty then return 1
  let endian ← match g.value? "endian" with
    | none => pure "little"
    | some s => c.chosen "--endian" [["big"], ["little"]] s
  let d : Dumping :=
    { radix, width, columns, showsAll := g.has "output-duplicates", isBig := endian = "big" }
  Act.put (d.go skipped none false (Octets.chunks width text)).flatten
  return status

end DeployForge.Shell.Utility
