import DeployForge.Shell.Octets

namespace DeployForge.Shell.Digest

def padded (s : ByteArray) : ByteArray :=
  let used := (s.size + 9) % 64
  let zeros := if used = 0 then 0 else 64 - used
  let bytes := (List.range 8).map fun i => UInt8.ofNat (s.size * 8 / Nat.pow 256 i % 256)
  s ++ (128 :: List.replicate zeros (0 : UInt8)).toByteArray ++ bytes.reverse.toByteArray

def wordAt (s : ByteArray) (at_ : Nat) : Nat :=
  (List.range 4).foldl (fun n i => n * 256 + (s.get! (at_ + i)).toNat) 0

def blockWords (s : ByteArray) (at_ : Nat) : Array UInt32 :=
  ((List.range 16).map fun i => UInt32.ofNat (wordAt s (at_ + i * 4))).toArray

def rotated (x : UInt32) (n : Nat) : UInt32 :=
  (x >>> UInt32.ofNat n) ||| (x <<< UInt32.ofNat (32 - n))

def primes (count : Nat) : List Nat :=
  ((List.range 420).filter fun n => 2 ≤ n && (List.range n).all fun d => d < 2 || n % d ≠ 0).take count

def root (power n : Nat) : Nat :=
  let rec go : Nat → Nat → Nat
    | 0, done => done
    | bit + 1, done =>
      let next := done + Nat.pow 2 bit
      go bit (if Nat.pow next power ≤ n then next else done)
  go 80 0

def rootBits (power count : Nat) : List UInt32 :=
  (primes count).map fun p => UInt32.ofNat (root power (p * Nat.pow 2 (32 * power)) % Nat.pow 2 32)

def schedule (words : Array UInt32) : Array UInt32 :=
  (List.range 48).foldl (fun a i =>
    let at_ (k : Nat) : UInt32 := a[i + k]?.getD 0
    let x := at_ 1
    let y := at_ 14
    let small := rotated x 7 ^^^ rotated x 18 ^^^ (x >>> 3)
    let large := rotated y 17 ^^^ rotated y 19 ^^^ (y >>> 10)
    a.push (large + at_ 9 + small + at_ 0)) words

structure State where
  a : UInt32
  b : UInt32
  c : UInt32
  d : UInt32
  e : UInt32
  f : UInt32
  g : UInt32
  h : UInt32

def State.start : State :=
  let bits := (rootBits 2 8).toArray
  let at_ (i : Nat) : UInt32 := bits[i]?.getD 0
  ⟨at_ 0, at_ 1, at_ 2, at_ 3, at_ 4, at_ 5, at_ 6, at_ 7⟩

def State.add (s t : State) : State :=
  ⟨s.a + t.a, s.b + t.b, s.c + t.c, s.d + t.d, s.e + t.e, s.f + t.f, s.g + t.g, s.h + t.h⟩

def State.toList (s : State) : List Nat :=
  [s.a, s.b, s.c, s.d, s.e, s.f, s.g, s.h].map UInt32.toNat

def round (ks ws : Array UInt32) (s : State) (i : Nat) : State :=
  let choice := (s.e &&& s.f) ^^^ ((~~~s.e) &&& s.g)
  let most := (s.a &&& s.b) ^^^ (s.a &&& s.c) ^^^ (s.b &&& s.c)
  let mixed := rotated s.e 6 ^^^ rotated s.e 11 ^^^ rotated s.e 25
  let t := s.h + mixed + choice + ks[i]?.getD 0 + ws[i]?.getD 0
  let u := (rotated s.a 2 ^^^ rotated s.a 13 ^^^ rotated s.a 22) + most
  ⟨t + u, s.a, s.b, s.c, s.d + t, s.e, s.f, s.g⟩

def sha256 (s : ByteArray) : Octets :=
  let s := padded s
  let ks := (rootBits 3 64).toArray
  let last := (List.range (s.size / 64)).foldl (fun (h : State) i =>
    h.add ((List.range 64).foldl (round ks (schedule (blockWords s (i * 64)))) h)) .start
  last.toList.flatMap (Octets.inBase 16 8)

end DeployForge.Shell.Digest
