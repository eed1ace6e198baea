import DeployForge.Text.Split
import DeployForge.Text.Utf8

/-! Bytes as the shell sees them: each is kept as the character with its number. -/

namespace DeployForge.Shell

abbrev Octets := List Char

def octet (n : Nat) : Char := Char.ofNat (n % 256)

def isBlank (c : Char) : Bool := c = ' ' || c = '\t'

def isSpace (c : Char) : Bool := c = ' ' || 9 ≤ c.toNat && c.toNat ≤ 13

def isShown (c : Char) : Bool := 32 ≤ c.toNat && c.toNat ≤ 126

def isNameStart (c : Char) : Bool := c.isAlpha || c = '_'

def isNameChar (c : Char) : Bool := c.isAlphanum || c = '_'

def isOctal (c : Char) : Bool := '0' ≤ c && c ≤ '7'

def isHexDigit (c : Char) : Bool :=
  c.isDigit || 'a' ≤ c && c ≤ 'f' || 'A' ≤ c && c ≤ 'F'

def digitValue (c : Char) : Nat :=
  if c.isDigit then c.toNat - 48 else c.toLower.toNat - 87

def sumOf (ns : List Nat) : Nat := ns.foldl (· + ·) 0

namespace Octets

def ofBytes (bytes : List UInt8) : Octets := bytes.map fun b => Char.ofNat b.toNat

def ofByteArray (bytes : ByteArray) : Octets := ofBytes bytes.toList

def ofString (s : String) : Octets :=
  if s.utf8ByteSize = s.length then s.toList else ofByteArray s.toUTF8

def toBytes (o : Octets) : List UInt8 := o.map fun c => UInt8.ofNat c.toNat

def toByteArray (o : Octets) : ByteArray := o.foldl (fun b c => b.push (UInt8.ofNat c.toNat)) .empty

def atMost : Octets → Octets → Bool
  | [], _ => true
  | _ :: _, [] => false
  | a :: s, b :: t => a.toNat < b.toNat || a = b && atMost s t

def toText (o : Octets) : String := .ofList (Text.Utf8.decode o.toBytes)

def ofNat (n : Nat) : Octets := Nat.toDigits 10 n

def ofInt (n : Int) : Octets := if n < 0 then '-' :: ofNat n.natAbs else ofNat n.natAbs

def inBase (base width n : Nat) : Octets :=
  let digits := Nat.toDigits base n
  List.replicate (width - digits.length) '0' ++ digits

def toUpper (o : Octets) : Octets := o.map Char.toUpper

def toLower (o : Octets) : Octets := o.map Char.toLower

def foldDigits (base : Nat) (o : Octets) : Nat := o.foldl (fun n c => n * base + digitValue c) 0

def nat? (o : Octets) : Option Nat :=
  if !o.isEmpty && o.all Char.isDigit then some (foldDigits 10 o) else none

def nat (o : Octets) : Nat := (nat? o).getD 0

def int? : Octets → Option Int
  | '-' :: ds => (nat? ds).map fun n => -(n : Int)
  | '+' :: ds => (nat? ds).map fun n => (n : Int)
  | ds => (nat? ds).map fun n => (n : Int)

def dropRightWhile (test : Char → Bool) (o : Octets) : Octets := (o.reverse.dropWhile test).reverse

def padLeft (c : Char) (width : Nat) (o : Octets) : Octets :=
  List.replicate (width - o.length) c ++ o

def padRight (c : Char) (width : Nat) (o : Octets) : Octets :=
  o ++ List.replicate (width - o.length) c

def cut? (c : Char) (o : Octets) : Option (Octets × Octets) :=
  let before := o.takeWhile (· ≠ c)
  match o.drop before.length with
  | _ :: after => some (before, after)
  | [] => none

def startsWith (start o : Octets) : Bool := start.isPrefixOf o

def endsWith (end_ o : Octets) : Bool := end_.isSuffixOf o

/-- The lines of a text without their ends, and whether the last one is ended. -/
def lines (o : Octets) : List Octets × Bool :=
  let rec go (line : Octets) : List Char → List Octets → List Octets × Bool
    | [], done => if line.isEmpty then (done.reverse, true) else ((line.reverse :: done).reverse, false)
    | '\n' :: rest, done => go [] rest (line.reverse :: done)
    | c :: rest, done => go (c :: line) rest done
  go [] o []

def unlines (ls : List Octets) : Octets := ls.flatMap (· ++ ['\n'])

def join (between : Octets) (os : List Octets) : Octets := between.intercalate os

def containsPart (part : Octets) : Octets → Bool
  | [] => part.isEmpty
  | c :: rest => part.isPrefixOf (c :: rest) || containsPart part rest

end Octets

end DeployForge.Shell
