import DeployForge.Proofs.Text.Trimming
import DeployForge.Text.Search
import Mathlib.Tactic.Common

namespace DeployForge.Text

variable {needle s rest : List Char}

lemma occursIn_iff : occursIn needle s = true ↔ needle <:+: s := by
  rw [occursIn]
  induction s with
  | nil => cases needle <;> simp [after?]
  | cons c s ih =>
    rw [after?, List.infix_cons_iff]
    split
    · next h => simp [List.isPrefixOf_iff_prefix.mp h]
    · next h =>
      rw [ih]
      rw [List.isPrefixOf_iff_prefix] at h
      simp [h]

lemma after?_eq_none_iff : after? needle s = none ↔ ¬ needle <:+: s := by
  rw [← occursIn_iff, occursIn]
  simp

lemma exists_of_after? (h : after? needle s = some rest) :
    ∃ before, s = before ++ needle ++ rest := by
  induction s with
  | nil =>
    rw [after?] at h
    obtain ⟨rfl, rfl⟩ : needle = [] ∧ [] = rest := by simpa using h
    exact ⟨[], rfl⟩
  | cons c s ih =>
    rw [after?] at h
    split at h
    · next hstarts =>
      obtain ⟨t, ht⟩ := List.isPrefixOf_iff_prefix.mp hstarts
      rw [← ht, List.drop_left, Option.some_inj] at h
      exact ⟨[], by rw [← ht, h, List.nil_append]⟩
    · obtain ⟨before, rfl⟩ := ih h
      exact ⟨c :: before, rfl⟩

lemma infix_append_cons_iff {c : Char} {left right : List Char} (hc : c ∉ needle) :
    needle <:+: left ++ c :: right ↔ needle <:+: left ∨ needle <:+: right := by
  have hstarts {l : List Char} (hl : c ∉ l) (h : l <+: c :: right) : l = [] := by
    rcases List.prefix_cons_iff.mp h with rfl | ⟨t, rfl, _⟩
    · rfl
    · simp at hl
  constructor
  · rw [List.infix_append_iff, List.infix_cons_iff]
    rintro (h | (h | h) | ⟨l, m, rfl, hl, hm⟩)
    · exact Or.inl h
    · rw [hstarts hc h]
      exact Or.inl (List.nil_infix)
    · exact Or.inr h
    · rw [hstarts (fun hcm => hc (List.mem_append_right _ hcm)) hm, List.append_nil]
      exact Or.inl hl.isInfix
  · rintro (h | h)
    · exact h.trans (List.prefix_append ..).isInfix
    · exact h.trans ⟨left ++ [c], [], by simp⟩

section Solid

variable {t left right : List Char} (hne : needle ≠ []) (hsolid : ∀ c ∈ needle, isBlank c = false)

include hsolid

lemma notMem_of_isBlank {c : Char} (hc : isBlank c = true) : c ∉ needle :=
  fun hmem => Bool.false_ne_true ((hsolid c hmem).symm.trans hc)

include hne

lemma not_infix_of_isBlank (ht : IsBlank t) : ¬ needle <:+: t := by
  intro h
  obtain ⟨c, hc⟩ := List.exists_mem_of_ne_nil needle hne
  exact notMem_of_isBlank hsolid (ht c (h.subset hc)) hc

lemma infix_append_blank_iff (hright : IsBlank right) :
    needle <:+: t ++ right ↔ needle <:+: t := by
  cases right with
  | nil => rw [List.append_nil]
  | cons c right =>
    have hc : c ∉ needle := notMem_of_isBlank hsolid (hright c List.mem_cons_self)
    rw [infix_append_cons_iff hc, or_iff_left]
    exact not_infix_of_isBlank hne hsolid fun d hd => hright d (List.mem_cons_of_mem c hd)

lemma infix_blank_append_iff (hleft : IsBlank left) :
    needle <:+: left ++ t ↔ needle <:+: t := by
  induction left with
  | nil => rw [List.nil_append]
  | cons c left ih =>
    have hc : c ∉ needle := notMem_of_isBlank hsolid (hleft c List.mem_cons_self)
    have hsplit : c :: left ++ t = [] ++ c :: (left ++ t) := rfl
    rw [hsplit, infix_append_cons_iff hc, ih fun d hd => hleft d (List.mem_cons_of_mem c hd),
      or_iff_right]
    exact not_infix_of_isBlank hne hsolid (List.forall_mem_nil _)

lemma infix_trim_iff : needle <:+: trim s ↔ needle <:+: s := by
  obtain ⟨left, right, hleft, hright, hs⟩ := exists_blanks_trim s
  conv_rhs => rw [hs]
  rw [infix_blank_append_iff hne hsolid hleft, infix_append_blank_iff hne hsolid hright]

end Solid

lemma after?_of_notMem {c : Char} {margin : List Char} (needle rest : List Char)
    (hc : c ∉ margin) : after? (c :: needle) (margin ++ (c :: needle) ++ rest) = some rest := by
  induction margin with
  | nil =>
    have hstarts : (c :: needle).isPrefixOf (c :: needle ++ rest) = true :=
      List.isPrefixOf_iff_prefix.mpr (List.prefix_append ..)
    rw [List.nil_append, List.cons_append, after?, ← List.cons_append, if_pos hstarts,
      List.drop_left]
  | cons d margin ih =>
    rw [List.mem_cons, not_or] at hc
    have hstarts : ¬ (c :: needle).isPrefixOf (d :: (margin ++ (c :: needle) ++ rest)) = true := by
      rw [List.isPrefixOf_iff_prefix, List.cons_prefix_cons]
      exact fun h => hc.1 h.1
    rw [List.cons_append, List.cons_append, after?, if_neg hstarts]
    exact ih hc.2

def before? (needle : List Char) : List Char → Option (List Char)
  | [] => if needle.isEmpty then some [] else none
  | c :: rest =>
    if needle.isPrefixOf (c :: rest) then some [] else (before? needle rest).map (c :: ·)

lemma before?_self_append (needle rest : List Char) : before? needle (needle ++ rest) = some [] := by
  cases needle with
  | nil => cases rest <;> rfl
  | cons c needle =>
    rw [List.cons_append, before?, if_pos]
    exact List.isPrefixOf_iff_prefix.mpr (List.prefix_append ..)

lemma prefix_append_cons_iff {c : Char} (hc : c ∉ needle) (t : List Char) :
    needle <+: s ++ c :: t ↔ needle <+: s := by
  refine ⟨fun h => ?_, fun h => h.trans (List.prefix_append ..)⟩
  rcases List.prefix_or_prefix_of_prefix h (List.prefix_append s (c :: t)) with hs | ⟨u, rfl⟩
  · exact hs
  · rw [List.prefix_append_right_inj, List.prefix_cons_iff] at h
    rcases h with rfl | ⟨v, rfl, _⟩
    · simp
    · simp at hc

lemma before?_append_cons {c : Char} (hc : c ∉ needle) (hs : ¬ needle <:+: s) (t : List Char) :
    before? needle (s ++ c :: t) = (before? needle t).map (s ++ c :: ·) := by
  have hstarts : ¬ needle.isPrefixOf (s ++ c :: t) = true := by
    rw [List.isPrefixOf_iff_prefix, prefix_append_cons_iff hc]
    exact fun h => hs h.isInfix
  induction s with
  | nil =>
    rw [List.nil_append] at hstarts ⊢
    rw [before?, if_neg hstarts]
    rfl
  | cons d s ih =>
    rw [List.infix_cons_iff, not_or] at hs
    have hrest : ¬ needle.isPrefixOf (s ++ c :: t) = true := by
      rw [List.isPrefixOf_iff_prefix, prefix_append_cons_iff hc]
      exact fun h => hs.2 h.isInfix
    rw [List.cons_append] at hstarts ⊢
    rw [before?, if_neg hstarts, ih hs.2 hrest, Option.map_map]
    rfl

end DeployForge.Text
