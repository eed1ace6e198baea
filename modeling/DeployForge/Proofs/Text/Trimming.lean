import DeployForge.Text.Blank
import Mathlib.Data.List.DropRight
import Mathlib.Tactic.Common

namespace DeployForge.Text

variable {s t : List Char} {c : Char}

def IsBlank (s : List Char) : Prop := ∀ c ∈ s, isBlank c = true

instance : DecidablePred IsBlank := fun s => List.decidableBAll (isBlank · = true) s

lemma allBlank_iff : allBlank s = true ↔ IsBlank s := List.all_eq_true

lemma IsBlank.append (hs : IsBlank s) (ht : IsBlank t) : IsBlank (s ++ t) := by
  intro c hc
  rcases List.mem_append.mp hc with hc | hc
  · exact hs c hc
  · exact ht c hc

lemma isBlank_append_iff : IsBlank (s ++ t) ↔ IsBlank s ∧ IsBlank t := by
  constructor
  · intro h
    exact ⟨fun c hc => h c (List.mem_append_left _ hc),
      fun c hc => h c (List.mem_append_right _ hc)⟩
  · rintro ⟨hs, ht⟩
    exact hs.append ht

lemma not_isBlank_of_mem (hc : c ∈ s) (hne : isBlank c = false) : ¬ IsBlank s := by
  intro h
  rw [h c hc] at hne
  cases hne

lemma IsBlank.count_eq_zero (hs : IsBlank s) (hc : isBlank c = false) : s.count c = 0 := by
  rw [List.count_eq_zero]
  intro hmem
  rw [hs c hmem] at hc
  cases hc

lemma trimEnd_eq_rdropWhile (s : List Char) : trimEnd s = s.rdropWhile isBlank := rfl

lemma trimEnd_append_blank (s : List Char) (ht : IsBlank t) : trimEnd (s ++ t) = trimEnd s := by
  rw [trimEnd, List.reverse_append, List.dropWhile_append_of_pos, trimEnd]
  intro c hc
  exact ht c (List.mem_reverse.mp hc)

lemma trimEnd_concat (s : List Char) (hc : isBlank c = false) : trimEnd (s ++ [c]) = s ++ [c] := by
  rw [trimEnd_eq_rdropWhile, List.rdropWhile_concat_neg _ _ _ (by simp [hc])]

lemma trimEnd_append_cons (s : List Char) (hc : isBlank c = false) (t : List Char) :
    trimEnd (s ++ c :: t) = s ++ c :: trimEnd t := by
  have hreverse : (s ++ c :: t).reverse = t.reverse ++ (c :: s.reverse) := by simp
  rw [trimEnd, hreverse, List.dropWhile_append, trimEnd]
  split
  · next hblank =>
    rw [List.isEmpty_iff] at hblank
    rw [hblank, List.dropWhile_cons_of_neg (by simp [hc])]
    simp
  · simp

lemma trimEnd_append_of_not_isBlank (s : List Char) (ht : ¬ IsBlank t) :
    trimEnd (s ++ t) = s ++ trimEnd t := by
  have hsome : ¬ (t.reverse.dropWhile isBlank).isEmpty = true := by
    rw [List.isEmpty_iff, List.dropWhile_eq_nil_iff]
    exact fun h => ht fun c hc => h c (List.mem_reverse.mpr hc)
  rw [trimEnd, List.reverse_append, List.dropWhile_append, if_neg hsome, List.reverse_append,
    List.reverse_reverse, trimEnd]

lemma trimEnd_eq_nil_iff : trimEnd s = [] ↔ IsBlank s := by
  rw [trimEnd_eq_rdropWhile, List.rdropWhile_eq_nil_iff, IsBlank]

lemma exists_trimEnd_append (s : List Char) : ∃ t, IsBlank t ∧ s = trimEnd s ++ t := by
  refine ⟨(s.reverse.takeWhile isBlank).reverse, ?_, ?_⟩
  · intro c hc
    exact List.mem_takeWhile_imp (List.mem_reverse.mp hc)
  · rw [trimEnd, ← List.reverse_append, List.takeWhile_append_dropWhile, List.reverse_reverse]

lemma trimEnd_isPrefix (s : List Char) : trimEnd s <+: s := by
  obtain ⟨t, _, hs⟩ := exists_trimEnd_append s
  exact ⟨t, hs.symm⟩

lemma isBlank_trimEnd_iff : IsBlank (trimEnd s) ↔ IsBlank s := by
  obtain ⟨t, ht, hs⟩ := exists_trimEnd_append s
  conv_rhs => rw [hs]
  exact ⟨fun h => h.append ht, fun h => (isBlank_append_iff.mp h).1⟩

lemma trimStart_append (hs : IsBlank s) (t : List Char) : trimStart (s ++ t) = trimStart t :=
  List.dropWhile_append_of_pos hs

lemma trimStart_cons (hc : isBlank c = false) (s : List Char) : trimStart (c :: s) = c :: s :=
  List.dropWhile_cons_of_neg (by simp [hc])

lemma trimStart_append_of_not_isBlank (hs : ¬ IsBlank s) (t : List Char) :
    trimStart (s ++ t) = trimStart s ++ t := by
  have hsome : ¬ (s.dropWhile isBlank).isEmpty = true := by
    rwa [List.isEmpty_iff, List.dropWhile_eq_nil_iff]
  rw [trimStart, List.dropWhile_append, if_neg hsome]
  rfl

lemma trimStart_isSuffix (s : List Char) : trimStart s <:+ s := List.dropWhile_suffix _

lemma trim_isInfix (s : List Char) : trim s <:+: s :=
  (trimEnd_isPrefix _).isInfix.trans (trimStart_isSuffix s).isInfix

lemma isBlank_trimStart_iff : IsBlank (trimStart s) ↔ IsBlank s := by
  have hs : s.takeWhile isBlank ++ trimStart s = s := List.takeWhile_append_dropWhile
  have hleft : IsBlank (s.takeWhile isBlank) := fun c hc => List.mem_takeWhile_imp hc
  conv_rhs => rw [← hs]
  exact ⟨hleft.append, fun h => (isBlank_append_iff.mp h).2⟩

lemma trim_eq_nil_iff : trim s = [] ↔ IsBlank s := by
  rw [trim, trimEnd_eq_nil_iff]
  exact isBlank_trimStart_iff

lemma trim_append_blanks {left right : List Char} (mid : List Char) (hleft : IsBlank left)
    (hright : IsBlank right) : trim (left ++ (mid ++ right)) = trim mid := by
  rw [trim, trimStart_append hleft]
  by_cases hmid : IsBlank mid
  · rw [trimStart_append hmid, ← trim, trim_eq_nil_iff.mpr hright, trim_eq_nil_iff.mpr hmid]
  · rw [trimStart_append_of_not_isBlank hmid, trimEnd_append_blank _ hright]
    rfl

lemma trim_between {left right : List Char} {first last : Char} (mid : List Char)
    (hleft : IsBlank left) (hright : IsBlank right) (hfirst : isBlank first = false)
    (hlast : isBlank last = false) :
    trim (left ++ (first :: (mid ++ [last])) ++ right) = first :: (mid ++ [last]) := by
  rw [List.append_assoc, trim_append_blanks _ hleft hright, trim, trimStart_cons hfirst,
    ← List.cons_append, trimEnd_concat _ hlast]

lemma trim_of_notBlank (h : ∀ c ∈ s, isBlank c = false) : trim s = s := by
  have hstart : trimStart s = s := by
    cases s with
    | nil => rfl
    | cons c s => exact trimStart_cons (h c List.mem_cons_self) s
  rw [trim, hstart]
  rcases List.eq_nil_or_concat' s with rfl | ⟨s, c, rfl⟩
  · rfl
  · exact trimEnd_concat s (h c (by simp))

lemma exists_blanks_trim (s : List Char) :
    ∃ left right, IsBlank left ∧ IsBlank right ∧ s = left ++ (trim s ++ right) := by
  obtain ⟨right, hright, hs⟩ := exists_trimEnd_append (trimStart s)
  refine ⟨s.takeWhile isBlank, right, fun c hc => List.mem_takeWhile_imp hc, hright, ?_⟩
  rw [trim, ← hs]
  exact List.takeWhile_append_dropWhile.symm

lemma trim_trim (s : List Char) : trim (trim s) = trim s := by
  obtain ⟨left, right, hleft, hright, hs⟩ := exists_blanks_trim s
  conv_rhs => rw [hs]
  exact (trim_append_blanks _ hleft hright).symm

lemma trim_trimStart (s : List Char) : trim (trimStart s) = trim s := by
  have hs : s.takeWhile isBlank ++ (trimStart s ++ []) = s := by
    rw [List.append_nil]
    exact List.takeWhile_append_dropWhile
  conv_rhs => rw [← hs]
  exact (trim_append_blanks _ (fun c hc => List.mem_takeWhile_imp hc)
    (List.forall_mem_nil _)).symm

end DeployForge.Text
