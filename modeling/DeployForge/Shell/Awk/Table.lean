import DeployForge.Shell.Octets
import Std.Data.HashMap

/-! Tables from texts to values. They are gone through bucket by bucket. -/

namespace DeployForge.Shell.Awk

def spread (s : Octets) : Nat :=
  s.foldl (fun h c => (h ^^^ c.toNat) * 16777619 % 4294967296) 2166136261

local instance : Hashable Octets := @instHashableList Char instHashableChar

/-- Buckets of numbers and of texts. Those of texts are filled when a text is first looked for. -/
structure Table (α : Type) where
  values : Std.HashMap Octets α := {}
  mask : Nat := 63
  numbers : Std.HashMap Nat (List Int) := {}
  texts : Std.HashMap Nat (List Octets) := {}
  hasTexts : Bool := false

namespace Table

variable {α : Type}

def size (t : Table α) : Nat := t.values.size

def contains (t : Table α) (key : Octets) : Bool := t.values.contains key

def get? (t : Table α) (key : Octets) : Option α := t.values.get? key

def bucket {β : Type} (m : Std.HashMap Nat (List β)) (i : Nat) : List β := (m.get? i).getD []

def place (mask : Nat) (n : Int) : Nat := (n % (mask + 1 : Int)).toNat

def textPlace (mask : Nat) (s : Octets) : Nat := spread s % (mask + 1)

def front {β : Type} [BEq β] (m : Std.HashMap Nat (List β)) (i : Nat) (b : β) :
    Std.HashMap Nat (List β) :=
  match bucket m i with
  | [] => m.insert i [b]
  | c :: rest => if c == b then m else m.insert i (b :: (c :: rest).filter (fun d => !(d == b)))

def withTexts (t : Table α) : Table α :=
  if t.hasTexts then t
  else
    let keys := (List.range (t.mask + 1)).flatMap fun i => (bucket t.numbers i).map Octets.ofInt
    let texts := keys.foldl (fun m s =>
      let i := textPlace t.mask s
      m.insert i (s :: bucket m i)) ({} : Std.HashMap Nat (List Octets))
    { t with texts, hasTexts := true }

def split {β : Type} (mask : Nat) (at_ : β → Nat) (m : Std.HashMap Nat (List β)) :
    Std.HashMap Nat (List β) :=
  (List.range (mask + 1)).foldl (fun n i =>
    match bucket m i with
    | [] => n
    | bs =>
      let (stay, move) := bs.partition fun b => at_ b = i
      (n.insert i stay).insert (i + mask + 1) move) {}

def grown (t : Table α) : Table α :=
  if t.size < (t.mask + 1) * 12 then t
  else
    let mask := 2 * t.mask + 1
    { t with
      mask
      numbers := split t.mask (place mask) t.numbers
      texts := split t.mask (textPlace mask) t.texts }

/-- Finds a text, which comes to the front, or adds it. -/
def touch (t : Table α) (new : α) (key : Octets) : Table α :=
  let t := t.withTexts
  if t.contains key then { t with texts := front t.texts (textPlace t.mask key) key }
  else
    let t := t.grown
    let i := textPlace t.mask key
    { t with values := t.values.insert key new, texts := t.texts.insert i (key :: bucket t.texts i) }

def touchNumber (t : Table α) (new : α) (n : Int) : Table α :=
  let i := place t.mask n
  if (bucket t.numbers i).contains n then { t with numbers := front t.numbers i n }
  else
    let key := Octets.ofInt n
    let t :=
      if t.hasTexts then t.touch new key
      else
        let t := t.grown
        { t with values := t.values.insert key new }
    let i := place t.mask n
    { t with numbers := t.numbers.insert i (n :: bucket t.numbers i) }

def set (t : Table α) (key : Octets) (a : α) : Table α := { t with values := t.values.insert key a }

def erase (t : Table α) (key : Octets) : Table α :=
  if !t.contains key then t
  else
    let values := t.values.erase key
    if values.isEmpty then {}
    else
      let i := textPlace t.mask key
      let numbers := match Octets.int? key with
        | some n =>
          let j := place t.mask n
          t.numbers.insert j ((bucket t.numbers j).filter (· ≠ n))
        | none => t.numbers
      { t with
        values, numbers
        texts := if t.hasTexts then t.texts.insert i ((bucket t.texts i).filter (· ≠ key))
          else t.texts }

def ofList (as : List α) : Table α :=
  let n := as.length
  let rec fit : Nat → Nat → Nat
    | 0, mask => mask
    | fuel + 1, mask => if n > (mask + 1) * 12 then fit fuel (2 * mask + 1) else mask
  let mask := fit 64 63
  as.zipIdx.foldl (fun t (a, i) =>
    let j := place mask (i + 1 : Int)
    { t with
      values := t.values.insert (Octets.ofNat (i + 1)) a
      numbers := t.numbers.insert j (((i + 1 : Nat) : Int) :: bucket t.numbers j) })
    { mask }

def keys (t : Table α) : List Octets :=
  (List.range (t.mask + 1)).flatMap (bucket t.texts)

end Table

end DeployForge.Shell.Awk
