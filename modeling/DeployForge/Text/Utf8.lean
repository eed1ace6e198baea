/-! Reading bytes as text: a malformed sequence becomes one replacement character. -/

namespace DeployForge.Text.Utf8

def replacement : Char := '\uFFFD'

/-- A sequence that still needs bytes, with the range of the next one. -/
structure Open where
  missing : Nat
  low : UInt8
  high : UInt8
  value : Nat

inductive Lead where
  | whole (c : Char)
  | opens (o : Open)
  | bad

def lead (b : UInt8) : Lead :=
  let n := b.toNat
  if n < 0x80 then .whole (Char.ofNat n)
  else if n < 0xC2 then .bad
  else if n < 0xE0 then .opens ⟨1, 0x80, 0xBF, n - 0xC0⟩
  else if n = 0xE0 then .opens ⟨2, 0xA0, 0xBF, 0⟩
  else if n = 0xED then .opens ⟨2, 0x80, 0x9F, n - 0xE0⟩
  else if n < 0xF0 then .opens ⟨2, 0x80, 0xBF, n - 0xE0⟩
  else if n = 0xF0 then .opens ⟨3, 0x90, 0xBF, 0⟩
  else if n < 0xF4 then .opens ⟨3, 0x80, 0xBF, n - 0xF0⟩
  else if n = 0xF4 then .opens ⟨3, 0x80, 0x8F, n - 0xF0⟩
  else .bad

def decodeFrom : Option Open → List UInt8 → List Char
  | none, [] => []
  | some _, [] => [replacement]
  | none, b :: rest => first b rest
  | some o, b :: rest =>
    if o.low ≤ b && b ≤ o.high then
      let value := o.value * 64 + (b.toNat - 0x80)
      if o.missing ≤ 1 then Char.ofNat value :: decodeFrom none rest
      else decodeFrom (some ⟨o.missing - 1, 0x80, 0xBF, value⟩) rest
    else replacement :: first b rest
where
  first (b : UInt8) (rest : List UInt8) : List Char :=
    match lead b with
    | .whole c => c :: decodeFrom none rest
    | .opens o => decodeFrom (some o) rest
    | .bad => replacement :: decodeFrom none rest

def decode (bytes : List UInt8) : List Char := decodeFrom none bytes

end DeployForge.Text.Utf8
