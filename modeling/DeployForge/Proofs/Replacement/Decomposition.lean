import DeployForge.Proofs.Replacement.Claims
import Mathlib.Data.List.Permutation

namespace DeployForge.ReplacementSet

open DeployForge.Span

variable {s : List Char} {set : ReplacementSet} {pairs : List (String × String)} {spans : List Span}
  {token value : String} {start cursor : ℕ}

/-- Two texts that begin at `start` with the same gaps, and between them with the tokens of some
pairs in the first and the values of these pairs in the second. The spans are those of the
tokens. -/
inductive Decomposes (pairs : List (String × String)) :
    ℕ → List Span → List Char → List Char → Prop
  | rest {start : ℕ} {gap : List Char} : Decomposes pairs start [] gap gap
  | span {start : ℕ} {gap s t : List Char} {token value : String} {spans : List Span} :
      (token, value) ∈ pairs → token ≠ "" →
      Decomposes pairs (start + gap.length + token.toList.length) spans s t →
      Decomposes pairs start (ofToken token value (start + gap.length) :: spans)
        (gap ++ token.toList ++ s) (gap ++ value.toList ++ t)

lemma drop_eq_append (hstands : token.toList <+: s.drop start) :
    s.drop start = token.toList ++ s.drop (start + token.toList.length) := by
  obtain ⟨rest, hrest⟩ := hstands
  rw [← List.drop_drop, ← hrest, List.drop_left]

lemma drop_eq_gap_append (hle : cursor ≤ start) (hstands : token.toList <+: s.drop start) :
    s.drop cursor =
      (s.drop cursor).take (start - cursor) ++ token.toList ++
        s.drop (start + token.toList.length) := by
  have hbehind : (s.drop cursor).drop (start - cursor) = s.drop start := by
    rw [List.drop_drop, Nat.add_sub_cancel' hle]
  conv_lhs => rw [← List.take_append_drop (start - cursor) (s.drop cursor), hbehind,
    drop_eq_append hstands, ← List.append_assoc]

lemma length_gap (hle : cursor ≤ start) (hne : token ≠ "")
    (hstands : token.toList <+: s.drop start) :
    ((s.drop cursor).take (start - cursor)).length = start - cursor := by
  have hlength := hstands.length_le
  have hpos := length_pos hne
  rw [List.length_drop] at hlength
  rw [List.length_take, List.length_drop]
  omega

lemma decomposes_stitch (hspans : ∀ span ∈ spans, span.IsOf pairs s)
    (hsorted : spans.Pairwise (·.stop ≤ ·.start)) (hcursor : ∀ span ∈ spans, cursor ≤ span.start) :
    Decomposes pairs cursor spans (s.drop cursor) (stitch cursor (s.drop cursor) spans) := by
  induction spans generalizing cursor with
  | nil => exact .rest
  | cons span spans ih =>
    obtain ⟨hbehind, hsorted⟩ := List.pairwise_cons.mp hsorted
    obtain ⟨token, value, hmem, hne, hspan, hstands⟩ := hspans span List.mem_cons_self
    have hle : cursor ≤ span.start := hcursor span List.mem_cons_self
    have hstop : span.stop = span.start + token.toList.length := congrArg Span.stop hspan
    have hvalue : span.value = value.toList := congrArg Span.value hspan
    have hsource := drop_eq_gap_append hle hstands
    have hplace : cursor + ((s.drop cursor).take (span.start - cursor)).length = span.start := by
      rw [length_gap hle hne hstands, Nat.add_sub_cancel' hle]
    have hrest := ih (fun other hother => hspans other (List.mem_cons_of_mem _ hother)) hsorted
      hbehind
    have hdrop : (s.drop cursor).drop (span.stop - cursor) = s.drop span.stop := by
      rw [List.drop_drop, Nat.add_sub_cancel' (by omega)]
    rw [stitch, hdrop, hvalue]
    generalize (s.drop cursor).take (span.start - cursor) = gap at hsource hplace ⊢
    have hcut : Decomposes pairs cursor (ofToken token value (cursor + gap.length) :: spans)
        (gap ++ token.toList ++ s.drop span.stop)
        (gap ++ value.toList ++ stitch span.stop (s.drop span.stop) spans) := by
      refine .span hmem hne ?_
      rwa [hplace, ← hstop]
    rw [hplace, ← hspan] at hcut
    rwa [hsource, ← hstop]

lemma isOf_claims (set : ReplacementSet) (s : List Char) :
    ∀ span ∈ set.claims s, span.IsOf set.pairs s := by
  intro span hspan
  exact ((keeps_claims set s).isOf span hspan).resolve_left (List.not_mem_nil)

lemma pairwise_claims (set : ReplacementSet) (s : List Char) : (set.claims s).Pairwise Apart :=
  (keeps_claims set s).pairwise List.Pairwise.nil

lemma spans_perm (set : ReplacementSet) (s : List Char) : (set.spans s).Perm (set.claims s) :=
  List.mergeSort_perm ..

lemma isOf_spans (set : ReplacementSet) (s : List Char) :
    ∀ span ∈ set.spans s, span.IsOf set.pairs s :=
  fun span hspan => isOf_claims set s span ((spans_perm set s).subset hspan)

lemma pairwise_spans (set : ReplacementSet) (s : List Char) :
    (set.spans s).Pairwise (·.stop ≤ ·.start) := by
  have hperm := spans_perm set s
  have hapart : (set.spans s).Pairwise Apart :=
    (hperm.pairwise_iff fun h => h.symm).mpr (pairwise_claims set s)
  have hsorted : (set.spans s).Pairwise (·.start ≤ ·.start) := by
    have hmerge : (set.spans s).Pairwise fun a b => decide (a.start ≤ b.start) = true :=
      List.pairwise_mergeSort (by simpa using fun _ _ _ => Nat.le_trans)
        (by simpa using fun _ _ => Nat.le_total _ _) (set.claims s)
    exact hmerge.imp fun h => of_decide_eq_true h
  refine (hapart.and hsorted).imp_of_mem ?_
  rintro a b ha hb ⟨happart, hle⟩
  have ha' := (isOf_spans set s a ha).start_lt_stop
  have hb' := (isOf_spans set s b hb).start_lt_stop
  rcases happart with h | h <;> omega

lemma spans_eq_of_perm (hperm : spans.Perm (set.claims s))
    (hsorted : spans.Pairwise (·.stop ≤ ·.start)) : set.spans s = spans := by
  have hsame := (spans_perm set s).trans hperm.symm
  apply List.Perm.eq_of_pairwise ?_ (pairwise_spans set s) hsorted hsame
  intro a b ha hb hab hba
  have ha' := (isOf_spans set s a ha).start_lt_stop
  have hb' := (isOf_claims set s b (hperm.subset hb)).start_lt_stop
  omega

lemma nodup_starts (set : ReplacementSet) (s : List Char) :
    ((set.spans s).map (·.start)).Nodup := by
  refine List.pairwise_map.mpr ((pairwise_spans set s).imp_of_mem ?_)
  intro a b ha _ hle
  have ha' := (isOf_spans set s a ha).start_lt_stop
  omega

lemma claims_filter (set : ReplacementSet) (s : List Char) :
    claims ⟨set.pairs.filter (·.1 ≠ "")⟩ s = set.claims s := by
  simp only [claims]
  generalize ([] : List Span) = taken
  induction set.pairs generalizing taken with
  | nil => rfl
  | cons pair pairs ih =>
    obtain ⟨token, value⟩ := pair
    by_cases hne : token = ""
    · subst hne
      rw [List.filter_cons_of_neg (by simp)]
      exact ih taken
    · rw [List.filter_cons_of_pos (by simpa using hne)]
      exact ih _

lemma apply_filter (set : ReplacementSet) (text : String) :
    apply ⟨set.pairs.filter (·.1 ≠ "")⟩ text = set.apply text := by
  simp only [apply, spans, claims_filter]

/-- What is replaced is what the pairs keep of their tokens' occurrences. The gaps are copied, no
value is looked at again, and an empty token is as good as none. -/
theorem apply_decomposes (set : ReplacementSet) (text : String) :
    ∃ kept spans,
      (∀ taken, Keeps text.toList [] set.pairs taken ↔ taken = kept) ∧ spans.Perm kept ∧
      Decomposes set.pairs 0 spans text.toList (set.apply text).toList ∧
      kept.Pairwise Apart ∧ (kept.map (·.start)).Nodup ∧
      apply ⟨set.pairs.filter (·.1 ≠ "")⟩ text = set.apply text := by
  have hperm := spans_perm set text.toList
  have hsorted := pairwise_spans set text.toList
  have hof : ∀ span ∈ set.spans text.toList, span.IsOf set.pairs text.toList :=
    fun span hspan => isOf_claims set text.toList span (hperm.subset hspan)
  have hcut : Decomposes set.pairs 0 (set.spans text.toList) text.toList
      (stitch 0 text.toList (set.spans text.toList)) :=
    decomposes_stitch hof hsorted fun _ _ => Nat.zero_le _
  refine ⟨set.claims text.toList, set.spans text.toList, fun _ => keeps_iff, hperm, ?_,
    pairwise_claims set text.toList, (hperm.map _).nodup_iff.mp (nodup_starts set text.toList),
    apply_filter set text⟩
  rwa [apply, String.toList_ofList]

end DeployForge.ReplacementSet
