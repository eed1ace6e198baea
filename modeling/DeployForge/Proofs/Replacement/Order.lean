import DeployForge.Proofs.Replacement.Decomposition

/-!
The order of the pairs decides conflicts between their tokens. Where a text has none, each pair
takes all that its scan finds, and any order of the pairs gives the same result.
-/

namespace DeployForge.ReplacementSet

open DeployForge.Span

variable {s : List Char} {set : ReplacementSet} {taken kept : List Span}
  {pairs : List (String × String)} {token value : String}

/-- No occurrence of the token of one pair overlaps an occurrence of the token of another. -/
def FreeOfConflicts (pairs : List (String × String)) (s : List Char) : Prop :=
  pairs.Pairwise fun p q =>
    ∀ a : Span, a.IsOf [p] s → ∀ b : Span, b.IsOf [q] s → a.Apart b

instance : Decidable (FreeOfConflicts pairs s) :=
  decidable_of_iff
    (pairs.Pairwise fun p q =>
      ∀ a ∈ occurrencesOf [p] s, ∀ b ∈ occurrencesOf [q] s, a.Apart b)
    (by simp only [FreeOfConflicts, mem_occurrencesOf])

lemma FreeOfConflicts.perm {pairs' : List (String × String)} (h : FreeOfConflicts pairs s)
    (hperm : pairs.Perm pairs') : FreeOfConflicts pairs' s := by
  refine List.Pairwise.perm h hperm ?_
  intro p q hapart a ha b hb
  exact (hapart b hb a ha).symm

def allCandidates (pairs : List (String × String)) (s : List Char) : List Span :=
  pairs.flatMap fun (token, value) => candidates s token.toList value.toList

lemma Keeps.eq_append (h : Keeps s taken pairs kept) (hfree : FreeOfConflicts pairs s)
    (htaken : ∀ other ∈ taken, ∀ span : Span, span.IsOf pairs s → span.Apart other) :
    kept = taken ++ allCandidates pairs s := by
  induction h with
  | done => simp [allCandidates]
  | @idle taken kept value rest _ ih =>
    have hrest := (List.pairwise_cons.mp hfree).2
    rw [ih hrest fun other hother span hof =>
      htaken other hother span (hof.mono (List.subset_cons_self ..))]
    simp [allCandidates, candidates]
  | @turn taken kept token value rest starts hne hscan _ ih =>
    obtain ⟨hfirst, hrest⟩ := List.pairwise_cons.mp hfree
    have hof : ∀ span ∈ starts.map (ofToken token value), span.IsOf [(token, value)] s :=
      isOf_of_scan hne hscan
    have hall : (starts.map (ofToken token value)).filter
        (fun span => ∀ other ∈ taken, span.Apart other) = starts.map (ofToken token value) := by
      apply List.filter_eq_self.mpr
      intro span hspan
      apply decide_eq_true
      intro other hother
      exact htaken other hother span ((hof span hspan).mono (by simp))
    have hfound : candidates s token.toList value.toList = starts.map (ofToken token value) := by
      rw [candidates_eq hne, hscan.unique (scan_token hne s)]
    rw [hall] at ih
    rw [ih hrest, List.append_assoc, ← hfound]
    · rfl
    · intro other hother span hspan
      rcases List.mem_append.mp hother with hother | hother
      · exact htaken other hother span (hspan.mono (List.subset_cons_self ..))
      · obtain ⟨q, hq, hspan⟩ := isOf_iff_exists.mp hspan
        exact (hfirst q hq other (hof other hother) span hspan).symm

lemma claims_eq_allCandidates (hfree : FreeOfConflicts set.pairs s) :
    set.claims s = allCandidates set.pairs s := by
  have hkeeps := (keeps_claims set s).eq_append hfree (List.forall_mem_nil _)
  rwa [List.nil_append] at hkeeps

/-- Without a conflict between tokens in the text, the order of the pairs does not matter. -/
theorem apply_perm (set : ReplacementSet) (text : String)
    (hfree : FreeOfConflicts set.pairs text.toList) (pairs : List (String × String))
    (hperm : pairs.Perm set.pairs) : apply ⟨pairs⟩ text = set.apply text := by
  have hclaims : (claims ⟨pairs⟩ text.toList).Perm (set.claims text.toList) := by
    rw [claims_eq_allCandidates hfree, claims_eq_allCandidates (hfree.perm hperm.symm)]
    exact hperm.flatMap_right _
  have hspans : set.spans text.toList = spans ⟨pairs⟩ text.toList :=
    spans_eq_of_perm ((spans_perm _ _).trans hclaims) (pairwise_spans _ _)
  rw [apply, apply, hspans]

def unrelated : ReplacementSet := ⟨[("aa", "b"), ("", "1"), ("b", "2")]⟩

theorem apply_perm_unrelated :
    FreeOfConflicts unrelated.pairs "aaab".toList ∧
      [("b", "2"), ("aa", "b"), ("", "1")].Perm unrelated.pairs ∧
      apply ⟨[("b", "2"), ("aa", "b"), ("", "1")]⟩ "aaab" = unrelated.apply "aaab" ∧
      unrelated.apply "aaab" = "ba2" := by
  have hfree : FreeOfConflicts unrelated.pairs "aaab".toList := by decide
  have hperm : [("b", "2"), ("aa", "b"), ("", "1")].Perm unrelated.pairs := by decide
  exact ⟨hfree, hperm, apply_perm unrelated "aaab" hfree _ hperm, by cbv⟩

end DeployForge.ReplacementSet
