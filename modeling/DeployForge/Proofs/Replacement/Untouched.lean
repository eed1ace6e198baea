import DeployForge.Proofs.Replacement.Decomposition

/-!
Which occurrences of the tokens a replacement leaves untouched. A scan goes on behind each match,
also behind one that is then left to an earlier pair, so an occurrence that begins in such a match
is never looked at.
-/

namespace DeployForge.ReplacementSet

open DeployForge.Span

variable {s : List Char} {set : ReplacementSet} {span : Span} {taken kept : List Span}
  {pairs rest : List (String × String)} {token value : String} {start : ℕ}

/-- Every occurrence of a token touches a span that is replaced. -/
def LeavesNoneFree (set : ReplacementSet) (s : List Char) : Prop :=
  ∀ span : Span, span.IsOf set.pairs s → ∃ other ∈ set.spans s, ¬ span.Apart other

/-- The occurrence begins inside a match of the same token that is left to an earlier pair. -/
def IsPassedOver (set : ReplacementSet) (s : List Char) (span : Span) : Prop :=
  ∃ early token value late start, set.pairs = early ++ (token, value) :: late ∧
    span = ofToken token value span.start ∧ start ∈ Text.occurrences token.toList s ∧
    start < span.start ∧ span.start < start + token.toList.length ∧
    ∃ other ∈ claims ⟨early⟩ s, ¬ (ofToken token value start).Apart other

lemma Keeps.subset (h : Keeps s taken pairs kept) : taken ⊆ kept := by
  induction h with
  | done => exact List.Subset.refl _
  | idle _ ih => exact ih
  | turn _ _ _ ih => exact List.Subset.trans (List.subset_append_left ..) ih

lemma Keeps.kept_or_touches (h : Keeps s taken ((token, value) :: rest) kept) (hne : token ≠ "")
    (hstart : start ∈ Text.occurrences token.toList s) :
    ofToken token value start ∈ kept ∨ ∃ other ∈ taken, ¬ (ofToken token value start).Apart other := by
  cases h with
  | idle => exact absurd rfl hne
  | @turn _ _ _ _ _ starts _ hscan hrest =>
    obtain rfl := hscan.unique (scan_token hne s)
    by_cases hfree : ∀ other ∈ taken, (ofToken token value start).Apart other
    · left
      apply hrest.subset
      exact List.mem_append_right _ (List.mem_filter.mpr
        ⟨List.mem_map_of_mem hstart, decide_eq_true hfree⟩)
    · right
      simpa only [not_forall, exists_prop] using hfree

lemma keeps_claims_append (early late : List (String × String)) (s : List Char) :
    Keeps s (claims ⟨early⟩ s) late (claims ⟨early ++ late⟩ s) := by
  simp only [claims, List.foldl_append]
  exact claims_append_keeps late s _

lemma not_apart_ofToken {i j : ℕ} (hle : i ≤ j) (hlt : j < i + token.toList.length) :
    ¬ (ofToken token value j).Apart (ofToken token value i) := by
  simp only [Apart, ofToken, not_or]
  omega

lemma touches_or_isPassedOver (h : span.IsOf set.pairs s) :
    (∃ other ∈ set.claims s, ¬ span.Apart other) ∨ set.IsPassedOver s span := by
  obtain ⟨token, value, hmem, hne, hspan, hstands⟩ := h
  obtain ⟨early, late, hpairs⟩ := List.append_of_mem hmem
  have hkeeps := keeps_claims_append early ((token, value) :: late) s
  rw [← hpairs] at hkeeps
  obtain ⟨start, hstart, hle, hlt⟩ := (scan_token hne s).exists_reaching hstands
  rw [Nat.zero_add] at hle hlt
  rcases hkeeps.kept_or_touches hne hstart with hkept | ⟨other, hother, htouches⟩
  · left
    refine ⟨_, hkept, ?_⟩
    rw [hspan]
    exact not_apart_ofToken hle hlt
  · rcases Nat.eq_or_lt_of_le hle with heq | hbefore
    · left
      refine ⟨other, hkeeps.subset hother, ?_⟩
      rwa [hspan, ← heq]
    · right
      exact ⟨early, token, value, late, start, hpairs, hspan, hstart, hbefore, hlt, other, hother,
        htouches⟩

lemma touches_spans_iff :
    (∃ other ∈ set.spans s, ¬ span.Apart other) ↔ ∃ other ∈ set.claims s, ¬ span.Apart other := by
  simp only [(spans_perm set s).mem_iff]

/-- No occurrence is left free, other than those that the scan for their token passed over in a
match that was left to an earlier pair. -/
theorem leavesNoneFree_iff (set : ReplacementSet) (text : String) :
    set.LeavesNoneFree text.toList ↔
      ∀ span : Span, span.IsOf set.pairs text.toList → set.IsPassedOver text.toList span →
        ∃ other ∈ set.spans text.toList, ¬ span.Apart other := by
  constructor
  · intro h span hspan _
    exact h span hspan
  · intro h span hspan
    rcases touches_or_isPassedOver hspan with htouches | hpassed
    · exact touches_spans_iff.mpr htouches
    · exact h span hspan hpassed

def chained : ReplacementSet := ⟨[("ba", "X"), ("aa", "Y")]⟩

theorem not_leavesNoneFree_chained : ¬ chained.LeavesNoneFree "baaa".toList := by
  have hclaims : chained.claims "baaa".toList = [ofToken "ba" "X" 0] := by decide
  have hfree : (ofToken "aa" "Y" 2).IsOf chained.pairs "baaa".toList :=
    ⟨"aa", "Y", by decide, by decide, rfl, by decide⟩
  intro h
  obtain ⟨other, hother, htouches⟩ := h _ hfree
  rw [(spans_perm _ _).mem_iff, hclaims, List.mem_singleton] at hother
  subst hother
  exact htouches (by decide)

end DeployForge.ReplacementSet
