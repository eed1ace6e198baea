import DeployForge.Listing.Extraction
import DeployForge.Proofs.Text.Trimming
import Mathlib.Data.List.Infix

namespace DeployForge.Listing

open Text

inductive Closes : ℕ → List Line → Prop
  | last {depth : ℕ} {line : Line} : depthAfter depth line = 0 → Closes depth [line]
  | more {depth : ℕ} {line : Line} {ls : List Line} : depthAfter depth line ≠ 0 →
      Closes (depthAfter depth line) ls → Closes depth (line :: ls)

inductive StaysOpen : ℕ → List Line → Prop
  | nil {depth : ℕ} : StaysOpen depth []
  | cons {depth : ℕ} {line : Line} {ls : List Line} : depthAfter depth line ≠ 0 →
      StaysOpen (depthAfter depth line) ls → StaysOpen depth (line :: ls)

variable {depth : ℕ} {line : Line} {ls ms body : List Line}

lemma capture?_of_closes (h : Closes depth body) (ms : List Line) :
    capture? depth (body ++ ms) = some body := by
  induction h with
  | last hzero =>
    rw [List.cons_append, capture?]
    exact if_pos hzero
  | more hne _ ih =>
    rw [List.cons_append, capture?]
    simp only [if_neg hne, ih, Option.map_some]

lemma closes_of_capture? (h : capture? depth ls = some body) :
    Closes depth body ∧ ∃ ms, ls = body ++ ms := by
  induction ls generalizing depth body with
  | nil => cases h
  | cons line ls ih =>
    rw [capture?] at h
    by_cases hzero : depthAfter depth line = 0
    · rw [if_pos hzero] at h
      cases h
      exact ⟨.last hzero, ls, rfl⟩
    · rw [if_neg hzero] at h
      obtain ⟨body, hbody, rfl⟩ := Option.map_eq_some_iff.mp h
      obtain ⟨hcloses, ms, rfl⟩ := ih hbody
      exact ⟨.more hzero hcloses, ms, rfl⟩

lemma capture?_eq_none_iff : capture? depth ls = none ↔ StaysOpen depth ls := by
  induction ls generalizing depth with
  | nil => exact ⟨fun _ => .nil, fun _ => rfl⟩
  | cons line ls ih =>
    rw [capture?]
    by_cases hzero : depthAfter depth line = 0
    · rw [if_pos hzero]
      constructor
      · rintro ⟨⟩
      · intro h
        cases h
        contradiction
    · rw [if_neg hzero, Option.map_eq_none_iff, ih]
      exact ⟨.cons hzero, fun h => by cases h; assumption⟩

lemma staysOpen_append_iff :
    StaysOpen depth (ls ++ ms) ↔
      StaysOpen depth ls ∧ StaysOpen (ls.foldl depthAfter depth) ms := by
  induction ls generalizing depth with
  | nil => exact ⟨fun h => ⟨.nil, h⟩, fun h => h.2⟩
  | cons line ls ih =>
    constructor
    · rintro (_ | ⟨hne, h⟩)
      exact ⟨.cons hne (ih.mp h).1, (ih.mp h).2⟩
    · rintro ⟨_ | ⟨hne, h⟩, hms⟩
      exact .cons hne (ih.mpr ⟨h, hms⟩)

lemma StaysOpen.not_closes (h : StaysOpen depth ls) : ¬ Closes depth ls := by
  intro hc
  have hsome := capture?_of_closes hc []
  rw [List.append_nil, capture?_eq_none_iff.mpr h] at hsome
  cases hsome

lemma StaysOpen.closes_concat (h : StaysOpen depth ls)
    (hzero : depthAfter (ls.foldl depthAfter depth) line = 0) : Closes depth (ls ++ [line]) := by
  induction h with
  | nil => exact .last hzero
  | cons hne _ ih => exact .more hne (ih hzero)

section Braces

variable {s t left right : List Char} {c : Char}

/-- Every closing brace closes one that was opened before it, and none is left open. -/
structure Balanced (s : List Char) : Prop where
  opened : ∀ p, p <+: s → p.count '\x7d' ≤ p.count '\x7b'
  closed : s.count '\x7d' = s.count '\x7b'

instance : DecidablePred Balanced := fun s =>
  decidable_of_iff
    ((∀ p ∈ s.inits, p.count '\x7d' ≤ p.count '\x7b') ∧ s.count '\x7d' = s.count '\x7b')
    ⟨fun h => ⟨fun p hp => h.1 p ((List.mem_inits p s).mpr hp), h.2⟩,
      fun h => ⟨fun p hp => h.opened p ((List.mem_inits p s).mp hp), h.closed⟩⟩

lemma brace_add_count (hd : [c].count '\x7d' < depth + [c].count '\x7b') :
    brace depth c + [c].count '\x7d' = depth + [c].count '\x7b' := by
  rw [brace]
  split
  · next h =>
    subst h
    rfl
  · split
    · next h =>
      subst h
      simp at hd ⊢
      omega
    · next hopen hclose => simp [hopen, hclose]

lemma foldl_brace_add_count
    (h : ∀ p, p <+: s → p.count '\x7d' < depth + p.count '\x7b') :
    s.foldl brace depth + s.count '\x7d' = depth + s.count '\x7b' := by
  induction s generalizing depth with
  | nil => rfl
  | cons c s ih =>
    have hstep := brace_add_count (h [c] (by simp))
    -- A prefix of the rest, with `c` before it, is a prefix of the whole.
    have hrest : ∀ p, p <+: s → p.count '\x7d' < brace depth c + p.count '\x7b' := by
      intro p hp
      have hp' := h ([c] ++ p) ((List.prefix_append_right_inj [c]).mpr hp)
      simp only [List.count_append] at hp'
      omega
    have hs := ih hrest
    rw [List.foldl_cons, ← List.singleton_append, List.count_append, List.count_append]
    omega

lemma staysOpen_of_count
    (h : ∀ p, p <+: ls.flatten → p.count '\x7d' < depth + p.count '\x7b') :
    StaysOpen depth ls := by
  induction ls generalizing depth with
  | nil => exact .nil
  | cons line ls ih =>
    have hline : depthAfter depth line + line.count '\x7d' = depth + line.count '\x7b' :=
      foldl_brace_add_count fun p hp => h p (hp.trans (List.prefix_append ..))
    have hopen := h line (List.prefix_append ..)
    refine .cons (by omega) (ih fun p hp => ?_)
    have hp' := h (line ++ p) ((List.prefix_append_right_inj line).mpr hp)
    simp only [List.count_append] at hp'
    omega

lemma Balanced.count_lt (h : Balanced s) :
    ∀ p, p <+: s → p.count '\x7d' < 1 + p.count '\x7b' := by
  intro p hp
  have hp' := h.opened p hp
  omega

lemma Balanced.staysOpen (h : Balanced ls.flatten) : StaysOpen 1 ls :=
  staysOpen_of_count h.count_lt

lemma Balanced.depth_eq (h : Balanced ls.flatten) : ls.foldl depthAfter 1 = 1 := by
  have hdepth : ls.foldl depthAfter 1 = ls.flatten.foldl brace 1 := (List.foldl_flatten ..).symm
  have hcount := foldl_brace_add_count h.count_lt
  have hclosed := h.closed
  omega

lemma brace_of_isBlank (hc : isBlank c = true) : brace depth c = depth := by
  have hopen : c ≠ '\x7b' := by
    rintro rfl
    cases hc
  have hclose : c ≠ '\x7d' := by
    rintro rfl
    cases hc
  rw [brace, if_neg hopen, if_neg hclose]

lemma depthAfter_of_isBlank (hs : IsBlank s) : depthAfter depth s = depth := by
  rw [depthAfter]
  induction s with
  | nil => rfl
  | cons c s ih =>
    rw [List.foldl_cons, brace_of_isBlank (hs c (by simp))]
    exact ih fun c hc => hs c (by simp [hc])

lemma depthAfter_close (hleft : IsBlank left) (hright : IsBlank right) :
    depthAfter depth (left ++ procClose.toList ++ right) = depth - 1 := by
  calc depthAfter depth (left ++ procClose.toList ++ right)
      = depthAfter (depthAfter (depthAfter depth left) procClose.toList) right := by
        simp only [depthAfter, List.foldl_append]
    _ = depthAfter depth procClose.toList := by
        rw [depthAfter_of_isBlank hright, depthAfter_of_isBlank hleft]
    _ = depth - 1 := rfl

end Braces

section Strip

variable {s t : List Char}

lemma stripClose_append (s : List Char) (ht : IsBlank t) :
    stripClose (s ++ procClose.toList ++ t) = trimEnd s := by
  have htext : trimEnd (s ++ procClose.toList ++ t) = s ++ procClose.toList := by
    have hclose : s ++ procClose.toList = s ++ ['\x7d'] ++ ['>'] := by simp [procClose]
    rw [trimEnd_append_blank _ ht, hclose, trimEnd_concat _ rfl]
  have hsuffix : procClose.toList.isSuffixOf (s ++ procClose.toList) = true :=
    List.isSuffixOf_iff_suffix.mpr (List.suffix_append ..)
  have hlength : (s ++ procClose.toList).length - procClose.length = s.length := by
    rw [List.length_append]
    exact Nat.add_sub_cancel ..
  simp only [stripClose]
  rw [htext, if_pos hsuffix, hlength, List.take_left]

lemma exists_stripClose_append (s : List Char) :
    ∃ t, s = stripClose s ++ t ∧ ∀ c ∈ t, isBlank c = true ∨ c ∈ procClose.toList := by
  obtain ⟨t, ht, hs⟩ := exists_trimEnd_append s
  by_cases hsuffix : procClose.toList <:+ trimEnd s
  · obtain ⟨text, htext⟩ := hsuffix
    obtain ⟨u, hu, hblank⟩ := exists_trimEnd_append text
    refine ⟨u ++ procClose.toList ++ t, ?_, ?_⟩
    · have hstrip : stripClose s = trimEnd text := by
        rw [hs, ← htext]
        exact stripClose_append text ht
      conv_lhs => rw [hs, ← htext, hblank]
      rw [hstrip]
      simp only [List.append_assoc]
    · intro c hc
      simp only [List.mem_append] at hc
      rcases hc with (hc | hc) | hc
      · exact Or.inl (hu c hc)
      · exact Or.inr hc
      · exact Or.inl (ht c hc)
  · refine ⟨[], ?_, by simp⟩
    rw [← List.isSuffixOf_iff_suffix] at hsuffix
    simp only [stripClose, if_neg hsuffix, List.append_nil]

end Strip

end DeployForge.Listing
