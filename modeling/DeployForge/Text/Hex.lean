import DeployForge.Text.Quoted

namespace DeployForge.Text.Hex

def digits : List Char := "0123456789abcdef".toList

def digit (n : Nat) : Char := digits.getD n '0'

def encode : List UInt8 → List Char
  | [] => []
  | b :: rest => digit (b.toNat / 16) :: digit (b.toNat % 16) :: encode rest

inductive Malformed where
  | oddLength
  | badCharacter (c : Char) (position : Nat)
  deriving DecidableEq, Repr

def Malformed.message : Malformed → String
  | oddLength => "Odd number of digits"
  | badCharacter c position =>
    "Invalid character " ++ quoteChar c ++ " at position " ++ toString position

def value? (c : Char) : Option Nat :=
  if '0' ≤ c && c ≤ '9' then some (c.toNat - '0'.toNat)
  else if 'a' ≤ c && c ≤ 'f' then some (c.toNat - 'a'.toNat + 10)
  else if 'A' ≤ c && c ≤ 'F' then some (c.toNat - 'A'.toNat + 10)
  else none

/-- The character whose code is the first byte of `c`. -/
def leadByte (c : Char) : Char := Char.ofNat ((String.utf8EncodeChar c).headD 0).toNat

def values (position : Nat) : List Char → Except Malformed (List Nat)
  | [] => .ok []
  | c :: rest =>
    match value? c with
    | none => .error (.badCharacter (leadByte c) position)
    | some v => (values (position + 1) rest).map (v :: ·)

def pairs : List Nat → List UInt8
  | high :: low :: rest => UInt8.ofNat (high * 16 + low) :: pairs rest
  | _ => []

def byteCount (s : List Char) : Nat := s.foldr (fun c n => c.utf8Size + n) 0

/-- The length that has to be even counts bytes, not characters. -/
def decode (s : List Char) : Except Malformed (List UInt8) :=
  if byteCount s % 2 = 1 then .error .oddLength
  else (values 0 s).map pairs

end DeployForge.Text.Hex
