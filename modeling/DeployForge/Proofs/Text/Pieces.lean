import DeployForge.Text.Split
import Mathlib.Algebra.GroupWithZero.Nat
import Mathlib.Order.Monotone.Basic
import Mathlib.Tactic.Common

namespace DeployForge.Text

variable {separator : Char} {s piece : List Char} {pieces : List (List Char)} {i j k : ℕ}

lemma splitAt_eq_splitOn (separator : Char) (s : List Char) :
    splitAt separator s = s.splitOn separator := by
  rw [List.splitOn]
  induction s with
  | nil => exact List.splitOnP_nil.symm
  | cons c s ih =>
    rw [splitAt, ih, List.splitOnP_cons_eq_if_modifyHead]
    obtain ⟨piece, more, hsplit⟩ := List.exists_cons_of_ne_nil (List.splitOnP_ne_nil _ s)
    rw [hsplit]
    by_cases h : c = separator <;> simp [h]

lemma splitAt_append_separator (separator : Char) (s t : List Char) :
    splitAt separator (s ++ separator :: t) = splitAt separator s ++ splitAt separator t := by
  have hseparator : (fun c : Char => c == separator) separator = true := beq_self_eq_true separator
  simp only [splitAt_eq_splitOn, List.splitOn]
  exact List.splitOnP_append_cons s t hseparator

lemma splitAt_of_notMem (h : separator ∉ s) : splitAt separator s = [s] := by
  rw [splitAt_eq_splitOn, List.splitOn]
  exact List.splitOnP_eq_singleton fun c hc => beq_false_of_ne fun heq => h (heq ▸ hc)

lemma splitAt_ne_nil (separator : Char) (s : List Char) : splitAt separator s ≠ [] := by
  rw [splitAt_eq_splitOn]
  exact List.splitOnP_ne_nil _ s

lemma splitAt_piece (hpiece : separator ∉ piece) (s : List Char) :
    splitAt separator (piece ++ separator :: s) = piece :: splitAt separator s := by
  rw [splitAt_append_separator, splitAt_of_notMem hpiece, List.singleton_append]

lemma splitAt_append {t : List Char} (ht : separator ∉ t) (s : List Char) :
    splitAt separator (s ++ t) =
      (splitAt separator s).dropLast ++ [(splitAt separator s).getLastD [] ++ t] := by
  induction s with
  | nil => exact splitAt_of_notMem ht
  | cons c s ih =>
    rw [List.cons_append, splitAt, ih, splitAt]
    obtain ⟨piece, rest, hsplit⟩ := List.exists_cons_of_ne_nil (splitAt_ne_nil separator s)
    by_cases hc : c = separator
    · cases rest <;> simp [hsplit, hc, List.getLastD]
    · cases rest <;> simp [hsplit, hc, List.getLastD]

/-- Where the piece of index `i` begins, with one separator behind each piece. -/
def pieceStart (pieces : List (List Char)) (i : ℕ) : ℕ := ((pieces.take i).map (·.length + 1)).sum

lemma pieceStart_cons (piece : List Char) (pieces : List (List Char)) (i : ℕ) :
    pieceStart (piece :: pieces) (i + 1) = piece.length + 1 + pieceStart pieces i := by
  simp [pieceStart]

lemma pieceStart_succ (h : pieces[i]? = some piece) :
    pieceStart pieces (i + 1) = pieceStart pieces i + piece.length + 1 := by
  simp [pieceStart, List.take_add_one, h, Nat.add_assoc]

lemma pieceStart_mono (pieces : List (List Char)) : Monotone (pieceStart pieces) := by
  apply monotone_nat_of_le_succ
  intro i
  cases h : pieces[i]? with
  | none => simp [pieceStart, List.take_add_one, h]
  | some piece =>
    rw [pieceStart_succ h]
    omega

lemma le_of_pieceStart_le (hj : j < pieces.length)
    (h : pieceStart pieces j ≤ pieceStart pieces i) : j ≤ i := by
  by_contra hlt
  rw [Nat.not_le] at hlt
  have hpiece : pieces[i]? = some pieces[i] := List.getElem?_eq_getElem (hlt.trans hj)
  have hnext := pieceStart_succ hpiece
  have hmono := pieceStart_mono pieces hlt
  simp only [Nat.succ_eq_add_one] at hmono
  omega

lemma sum_splitAt (separator : Char) (s : List Char) :
    ((splitAt separator s).map (·.length + 1)).sum = s.length + 1 := by
  induction s with
  | nil => rfl
  | cons c s ih =>
    obtain ⟨piece, rest, hsplit⟩ := List.exists_cons_of_ne_nil (splitAt_ne_nil separator s)
    rw [splitAt, hsplit]
    rw [hsplit, List.map_cons, List.sum_cons] at ih
    by_cases h : c = separator
    · simp only [if_pos h, List.map_cons, List.sum_cons, List.length_cons, List.length_nil]
      omega
    · simp only [if_neg h, List.map_cons, List.sum_cons, List.length_cons]
      omega

lemma pieceStart_append (separator : Char) (s : List Char) (more : List (List Char)) (i : ℕ) :
    pieceStart (splitAt separator s ++ more) ((splitAt separator s).length + i) =
      s.length + 1 + pieceStart more i := by
  rw [pieceStart, List.take_length_add_append, List.map_append, List.sum_append, sum_splitAt]
  rfl

lemma exists_piece (hpiece : separator ∉ piece)
    (h : separator :: (piece ++ [separator]) <+: s.drop k) :
    ∃ i, (splitAt separator s)[i]? = some piece ∧ 0 < i ∧
      i + 1 < (splitAt separator s).length ∧ pieceStart (splitAt separator s) i = k + 1 := by
  obtain ⟨rest, hrest⟩ := h
  have hk : k ≤ s.length := by
    by_contra hlt
    rw [List.drop_eq_nil_of_le (Nat.le_of_not_le hlt)] at hrest
    simp at hrest
  have hs : s = s.take k ++ separator :: (piece ++ separator :: rest) := by
    conv_lhs => rw [← List.take_append_drop k s, ← hrest]
    simp
  have hsplit : splitAt separator s =
      splitAt separator (s.take k) ++ (piece :: splitAt separator rest) := by
    conv_lhs => rw [hs]
    rw [splitAt_append_separator, splitAt_piece hpiece]
  have hfirst := List.length_pos_iff.mpr (splitAt_ne_nil separator (s.take k))
  have hlast := List.length_pos_iff.mpr (splitAt_ne_nil separator rest)
  refine ⟨(splitAt separator (s.take k)).length, ?_, hfirst, ?_, ?_⟩
  · rw [hsplit, List.getElem?_append_right (Nat.le_refl _), Nat.sub_self]
    rfl
  · rw [hsplit, List.length_append, List.length_cons]
    omega
  · have hstart := pieceStart_append separator (s.take k) (piece :: splitAt separator rest) 0
    rwa [← hsplit, List.length_take_of_le hk] at hstart

lemma exists_first_piece (h : 1 < (splitAt separator s).length) :
    ∃ first rest, s = first ++ separator :: rest ∧
      splitAt separator s = first :: splitAt separator rest := by
  have hmem : separator ∈ s := by
    by_contra hnone
    simp [splitAt_of_notMem hnone] at h
  obtain ⟨first, rest, rfl, hfirst⟩ := List.eq_append_cons_of_mem hmem
  exact ⟨first, rest, rfl, splitAt_piece hfirst rest⟩

lemma stands_of_piece (h : (splitAt separator s)[i]? = some piece) (hpos : 0 < i)
    (hlast : i + 1 < (splitAt separator s).length) :
    ∃ k, pieceStart (splitAt separator s) i = k + 1 ∧
      separator :: (piece ++ [separator]) <+: s.drop k := by
  induction i generalizing s with
  | zero => exact absurd hpos (Nat.lt_irrefl 0)
  | succ i ih =>
    obtain ⟨first, rest, rfl, hsplit⟩ := exists_first_piece (Nat.lt_of_le_of_lt (by omega) hlast)
    rw [hsplit] at h hlast ⊢
    rw [List.getElem?_cons_succ] at h
    rw [List.length_cons, Nat.add_lt_add_iff_right] at hlast
    rw [pieceStart_cons]
    cases i with
    | zero =>
      obtain ⟨second, more, rfl, hsplit'⟩ := exists_first_piece hlast
      rw [hsplit', List.getElem?_cons_zero, Option.some_inj] at h
      subst h
      refine ⟨first.length, rfl, ?_⟩
      rw [List.drop_left]
      exact ⟨more, by simp⟩
    | succ i =>
      obtain ⟨k, hk, hstands⟩ := ih h (Nat.succ_pos i) hlast
      refine ⟨first.length + 1 + k, by omega, ?_⟩
      have hdrop : (first ++ separator :: rest).drop (first.length + 1 + k) = rest.drop k := by
        rw [Nat.add_assoc, List.drop_length_add_append, Nat.add_comm, List.drop_succ_cons]
      rwa [hdrop]

end DeployForge.Text
