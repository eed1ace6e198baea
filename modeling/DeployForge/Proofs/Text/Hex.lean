import DeployForge.Proofs.Outcome
import DeployForge.Text.Hex

namespace DeployForge.Text.Hex

variable {c : Char} {s : List Char} {position v : ℕ} {vs : List ℕ} {bytes : List UInt8}

lemma toNat_lt_of_value? (h : value? c = some v) : c.toNat < 128 := by
  have hle : ∀ d : Char, d.toNat < 128 → c ≤ d → c.toNat < 128 := fun d hd hc =>
    Nat.lt_of_le_of_lt (UInt32.le_iff_toNat_le.mp (Char.le_def.mp hc)) hd
  rw [value?] at h
  split at h
  · next hc => exact hle '9' (by decide) (by simpa using (Bool.and_eq_true_iff.mp hc).2)
  split at h
  · next hc => exact hle 'f' (by decide) (by simpa using (Bool.and_eq_true_iff.mp hc).2)
  split at h
  · next hc => exact hle 'F' (by decide) (by simpa using (Bool.and_eq_true_iff.mp hc).2)
  cases h

lemma digit_of_value? (h : value? c = some v) :
    v < 16 ∧ digit v = c.toLower ∧ c.utf8Size = 1 := by
  have hchar : ∀ n < 128, ∀ v ∈ value? (Char.ofNat n),
      v < 16 ∧ digit v = (Char.ofNat n).toLower ∧ (Char.ofNat n).utf8Size = 1 := by
    decide +kernel
  have hc := hchar c.toNat (toNat_lt_of_value? h) v
  rw [Char.ofNat_toNat] at hc
  exact hc h

lemma map_digit_values (h : values position s = .ok vs) :
    vs.map digit = s.map Char.toLower ∧ (∀ v ∈ vs, v < 16) ∧ vs.length = byteCount s := by
  induction s generalizing position vs with
  | nil =>
    cases h
    exact ⟨rfl, nofun, rfl⟩
  | cons c rest ih =>
    rw [values] at h
    cases hv : value? c with
    | none => simp [hv] at h
    | some v =>
      simp only [hv] at h
      cases hrest : values (position + 1) rest with
      | error e => simp [hrest, Except.map] at h
      | ok ws =>
        rw [hrest] at h
        cases h
        obtain ⟨hdigits, hsmall, hlength⟩ := ih hrest
        obtain ⟨hv16, hdigit, hsize⟩ := digit_of_value? hv
        have hcount : byteCount (c :: rest) = c.utf8Size + byteCount rest := rfl
        refine ⟨by simp [hdigits, hdigit], by simpa using ⟨hv16, hsmall⟩, ?_⟩
        rw [List.length_cons, hlength, hcount, hsize]
        omega

lemma encode_pairs (hsmall : ∀ v ∈ vs, v < 16) (heven : vs.length % 2 = 0) :
    encode (pairs vs) = vs.map digit := by
  induction vs using pairs.induct with
  | case1 high low rest ih =>
    have hhigh : high < 16 := hsmall high (by simp)
    have hlow : low < 16 := hsmall low (by simp)
    have hbyte : (UInt8.ofNat (high * 16 + low)).toNat = high * 16 + low := by
      rw [UInt8.toNat_ofNat']
      omega
    have heven' : (rest.length + 2) % 2 = 0 := heven
    have hrest : encode (pairs rest) = rest.map digit :=
      ih (fun v hv => hsmall v (by simp [hv])) (by omega)
    have hdiv : (high * 16 + low) / 16 = high := by omega
    have hmod : (high * 16 + low) % 16 = low := by omega
    rw [pairs, encode, hbyte, hdiv, hmod, hrest]
    rfl
  | case2 vs hshort =>
    cases vs with
    | nil => rfl
    | cons v rest =>
      cases rest with
      | nil => simp at heven
      | cons w rest => exact absurd rfl (hshort v w rest)

lemma encode_of_decode (h : decode s = .ok bytes) : encode bytes = s.map Char.toLower := by
  rw [decode] at h
  split at h
  · cases h
  next hodd =>
  cases hv : values 0 s with
  | error e => simp [hv, Except.map] at h
  | ok vs =>
    rw [hv] at h
    cases h
    obtain ⟨hdigits, hsmall, hlength⟩ := map_digit_values hv
    rw [encode_pairs hsmall (by omega), hdigits]

def alphabet : List Char := "0123456789abcdefABCDEF".toList

lemma mem_alphabet_of_value? (h : value? c = some v) : c ∈ alphabet := by
  have hchar : ∀ n < 128, (value? (Char.ofNat n)).isSome → Char.ofNat n ∈ alphabet := by
    decide +kernel
  have hc := hchar c.toNat (toNat_lt_of_value? h)
  rw [Char.ofNat_toNat, h] at hc
  exact hc rfl

lemma toNat_lt_of_toLower (h : c.toLower.toNat < 128) : c.toNat < 128 := by
  by_contra hlarge
  delta Char.toLower at h
  rw [dif_neg] at h
  · exact hlarge h
  · rintro ⟨-, hle⟩
    exact hlarge (Nat.lt_of_le_of_lt (UInt32.le_iff_toNat_le.mp hle) (by decide))

lemma value?_of_toLower (hv : v < 16) (h : c.toLower = digit v) : value? c = some v := by
  have hchar : ∀ n < 128, ∀ v < 16, (Char.ofNat n).toLower = digit v →
      value? (Char.ofNat n) = some v := by
    decide +kernel
  have hsmall : ∀ v < 16, (digit v).toNat < 128 := by decide
  have hc := hchar c.toNat (toNat_lt_of_toLower (h ▸ hsmall v hv)) v hv
  rw [Char.ofNat_toNat] at hc
  exact hc h

lemma values_of_map_toLower (h : s.map Char.toLower = encode bytes) :
    ∃ vs, values position s = .ok vs ∧ pairs vs = bytes ∧ vs.length = 2 * bytes.length := by
  induction bytes generalizing s position with
  | nil =>
    obtain rfl : s = [] := List.map_eq_nil_iff.mp h
    exact ⟨[], rfl, rfl, rfl⟩
  | cons b rest ih =>
    obtain ⟨high, s, rfl, hhigh, h⟩ := List.map_eq_cons_iff.mp h
    obtain ⟨low, s, rfl, hlow, h⟩ := List.map_eq_cons_iff.mp h
    obtain ⟨vs, hvs, hpairs, hlength⟩ := @ih s (position + 1 + 1) h
    have hb := b.toNat_lt_size
    simp only [UInt8.size] at hb
    have hhigh' := value?_of_toLower (by omega) hhigh
    have hlow' := value?_of_toLower (by omega) hlow
    refine ⟨b.toNat / 16 :: b.toNat % 16 :: vs, ?_, ?_, by simp [hlength]; omega⟩
    · simp only [values, hhigh', hlow', hvs, Except.map]
    · rw [pairs, hpairs, Nat.div_add_mod', UInt8.ofNat_toNat]

lemma decode_eq_ok_iff : decode s = .ok bytes ↔ s.map Char.toLower = encode bytes := by
  constructor
  · intro h
    exact (encode_of_decode h).symm
  · intro h
    obtain ⟨vs, hvs, hpairs, hlength⟩ := values_of_map_toLower h
    have hcount := (map_digit_values hvs).2.2
    rw [decode, if_neg (by omega), hvs, ← hpairs]
    rfl

lemma mem_alphabet_of_values (h : values position s = .ok vs) : ∀ c ∈ s, c ∈ alphabet := by
  induction s generalizing position vs with
  | nil => exact List.forall_mem_nil _
  | cons c rest ih =>
    rw [values] at h
    cases hv : value? c with
    | none => simp [hv] at h
    | some v =>
      rw [hv] at h
      obtain ⟨ws, hws, _⟩ := map_eq_ok.mp h
      exact List.forall_mem_cons.mpr ⟨mem_alphabet_of_value? hv, ih hws⟩

lemma values_of_alphabet (h : ∀ c ∈ s, c ∈ alphabet) : ∃ vs, values position s = .ok vs := by
  induction s generalizing position with
  | nil => exact ⟨[], rfl⟩
  | cons c rest ih =>
    have hdigit : ∀ c ∈ alphabet, (value? c).isSome := List.all_eq_true.mp (by decide)
    obtain ⟨hc, hrest⟩ := List.forall_mem_cons.mp h
    obtain ⟨v, hv⟩ := Option.isSome_iff_exists.mp (hdigit c hc)
    obtain ⟨vs, hvs⟩ := ih hrest
    exact ⟨v :: vs, by rw [values, hv, hvs]; rfl⟩

lemma exists_decode_iff :
    (∃ bytes, decode s = .ok bytes) ↔ s.length % 2 = 0 ∧ ∀ c ∈ s, c ∈ alphabet := by
  have hlength : ∀ vs, values 0 s = .ok vs → byteCount s = s.length := by
    intro vs hvs
    obtain ⟨hdigits, _, hcount⟩ := map_digit_values hvs
    rw [← hcount, ← List.length_map digit, hdigits, List.length_map]
  constructor
  · rintro ⟨bytes, h⟩
    rw [decode] at h
    split at h
    · cases h
    · next heven =>
      obtain ⟨vs, hvs, _⟩ := map_eq_ok.mp h
      rw [hlength vs hvs] at heven
      exact ⟨by omega, mem_alphabet_of_values hvs⟩
  · rintro ⟨heven, hdigits⟩
    obtain ⟨vs, hvs⟩ := values_of_alphabet hdigits
    refine ⟨pairs vs, ?_⟩
    rw [decode, hlength vs hvs, if_neg (by omega), hvs]
    rfl

end DeployForge.Text.Hex
