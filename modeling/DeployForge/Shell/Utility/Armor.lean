import DeployForge.Shell.Utility.Input

namespace DeployForge.Shell.Utility

structure Armor where
  letters : Octets
  bits : Nat
  size : Nat

namespace Armor

def sixtyFour : Armor :=
  ⟨"ABCDEFGHIJKLMNOPQRSTUVWXYZabcdefghijklmnopqrstuvwxyz0123456789+/".toList, 6, 4⟩

def bytes (a : Armor) : Nat := a.bits * a.size / 8

def encodeGroup (a : Armor) (s : Octets) : Octets :=
  let n := s.foldl (fun n c => n * 256 + c.toNat) 0 * Nat.pow 256 (a.bytes - s.length)
  let base := Nat.pow 2 a.bits
  let used := (8 * s.length + a.bits - 1) / a.bits
  (List.range a.size).map fun i =>
    if i < used then a.letters[n / Nat.pow base (a.size - 1 - i) % base]?.getD '=' else '='

def encodeWithin (a : Armor) : Nat → Octets → List Octets
  | 0, _ | _, [] => []
  | fuel + 1, s => a.encodeGroup (s.take a.bytes) :: a.encodeWithin fuel (s.drop a.bytes)

def encode (a : Armor) (s : Octets) : Octets := (a.encodeWithin (s.length + 1) s).flatten

def decodeGroup (a : Armor) (s : Octets) : Option Octets := do
  let letters := s.takeWhile (· ≠ '=')
  if s.length ≠ a.size || !(s.drop letters.length).all (· = '=') then none
  let values ← letters.mapM fun c => a.letters.findIdx? (· = c)
  let count := letters.length * a.bits / 8
  if letters.length ≠ (8 * count + a.bits - 1) / a.bits || count = 0 then none
  let base := Nat.pow 2 a.bits
  let n := values.foldl (fun n v => n * base + v) 0 * Nat.pow base (a.size - letters.length)
  return (List.range count).map fun i => octet (n / Nat.pow 256 (a.bytes - 1 - i))

def decodeWithin (a : Armor) : Nat → Octets → List Octets → Octets × Bool
  | 0, _, done | _, [], done => (done.reverse.flatten, true)
  | fuel + 1, s, done =>
    match a.decodeGroup (s.take a.size) with
    | some bytes => a.decodeWithin fuel (s.drop a.size) (bytes :: done)
    | none =>
      let good := (s.take a.size).takeWhile a.letters.contains
      let count := good.length * a.bits / 8
      let filled := good.take ((8 * count + a.bits - 1) / a.bits)
      let part := (a.decodeGroup (Octets.padRight '=' a.size filled)).getD []
      ((part :: done).reverse.flatten, false)

def decode (a : Armor) (s : Octets) : Octets × Bool := a.decodeWithin (s.length + 1) s []

end Armor

def wrapped (width : Nat) : Nat → Octets → Octets
  | 0, _ | _, [] => []
  | fuel + 1, s => s.take width ++ '\n' :: wrapped width fuel (s.drop width)

def armor (a : Armor) (c : Call) : Act Nat := do
  let g ← c.options [.plain "d" "decode", .plain "i" "ignore-garbage", .valued "w" "wrap"]
  let width ← match g.value? "wrap" with
    | none => pure 76
    | some s =>
      match Octets.nat? s with
      | some n => pure n
      | none => c.fail 1 ("invalid wrap size: ".toList ++ Quote.always s)
  match g.operands with
  | _ :: extra :: _ => c.misuse 1 ("extra operand ".toList ++ Quote.always extra)
  | _ => pure ()
  let name := g.operands.headD ['-']
  let text ← match ← c.read name with
    | .ok text => pure text
    | .error e =>
      if e = .isDirectory then c.fail 1 ("read error: ".toList ++ Octets.ofString e.text)
      else
        c.complainOf name e
        return 1
  if g.has "decode" then
    let kept := if g.has "ignore-garbage"
      then text.filter fun ch => a.letters.contains ch || ch = '='
      else text.filter (· ≠ '\n')
    let (bytes, isGood) := a.decode kept
    Act.put bytes
    if !isGood then c.failText 1 "invalid input"
  else
    let s := a.encode text
    Act.put (if width = 0 then s else wrapped width (s.length + 1) s)
  return 0

def base64 : Utility := armor .sixtyFour

end DeployForge.Shell.Utility
