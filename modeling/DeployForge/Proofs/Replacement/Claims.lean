import DeployForge.Proofs.Text.Occurrences
import DeployForge.Replacement

namespace DeployForge

variable {s : List Char} {set : ReplacementSet} {span other : Span} {taken kept : List Span}
  {pairs rest : List (String × String)} {token value : String} {start : ℕ} {starts : List ℕ}

namespace Span

def Apart (a b : Span) : Prop := a.stop ≤ b.start ∨ b.stop ≤ a.start

instance (a b : Span) : Decidable (a.Apart b) := inferInstanceAs (Decidable (_ ∨ _))

lemma isDisjoint_iff (a b : Span) : a.isDisjoint b = true ↔ a.Apart b := by
  simp [isDisjoint, Apart]

lemma Apart.symm (h : span.Apart other) : other.Apart span := Or.symm h

def ofToken (token value : String) (start : ℕ) : Span :=
  ⟨start, start + token.toList.length, value.toList⟩

lemma length_pos (hne : token ≠ "") : 0 < token.toList.length :=
  List.length_pos_iff.mpr fun hnil => hne (String.toList_eq_nil_iff.mp hnil)

/-- The span of one of the tokens of `pairs`, at a place of `s` where that token stands. -/
def IsOf (pairs : List (String × String)) (s : List Char) (span : Span) : Prop :=
  ∃ token value, (token, value) ∈ pairs ∧ token ≠ "" ∧
    span = ofToken token value span.start ∧ token.toList <+: s.drop span.start

lemma IsOf.mono (h : span.IsOf rest s) (hsub : rest ⊆ pairs) : span.IsOf pairs s := by
  obtain ⟨token, value, hmem, hstands⟩ := h
  exact ⟨token, value, hsub hmem, hstands⟩

lemma IsOf.start_lt_stop (h : span.IsOf pairs s) : span.start < span.stop := by
  obtain ⟨token, value, _, hne, hspan, _⟩ := h
  rw [hspan]
  have hpos := length_pos hne
  simp only [ofToken]
  omega

lemma isOf_iff_exists : span.IsOf pairs s ↔ ∃ pair ∈ pairs, span.IsOf [pair] s := by
  constructor
  · rintro ⟨token, value, hmem, hstands⟩
    exact ⟨_, hmem, token, value, List.mem_singleton_self _, hstands⟩
  · rintro ⟨pair, hpair, hof⟩
    exact hof.mono (List.cons_subset.mpr ⟨hpair, List.nil_subset _⟩)

/-- The spans of all occurrences, those included that overlap each other. -/
def occurrencesOf (pairs : List (String × String)) (s : List Char) : List Span :=
  pairs.flatMap fun (token, value) =>
    if token = "" then []
    else ((List.range s.length).filter fun start => token.toList <+: s.drop start).map
      (ofToken token value)

lemma mem_occurrencesOf : span ∈ occurrencesOf pairs s ↔ span.IsOf pairs s := by
  simp only [occurrencesOf, List.mem_flatMap, Prod.exists]
  constructor
  · rintro ⟨token, value, hmem, hspan⟩
    by_cases hne : token = ""
    · rw [if_pos hne] at hspan
      cases hspan
    · rw [if_neg hne, List.mem_map] at hspan
      obtain ⟨start, hstart, rfl⟩ := hspan
      exact ⟨token, value, hmem, hne, rfl, of_decide_eq_true (List.mem_filter.mp hstart).2⟩
  · rintro ⟨token, value, hmem, hne, hspan, hstands⟩
    refine ⟨token, value, hmem, ?_⟩
    have hlength := hstands.length_le
    have hpos := length_pos hne
    rw [List.length_drop] at hlength
    rw [if_neg hne, List.mem_map]
    refine ⟨span.start, ?_, hspan.symm⟩
    rw [List.mem_filter, List.mem_range]
    exact ⟨by omega, decide_eq_true hstands⟩

end Span

namespace ReplacementSet

open DeployForge.Span

lemma scan_token (hne : token ≠ "") (s : List Char) :
    Text.Scan token.toList 0 s (Text.occurrences token.toList s) :=
  Text.scan_occurrences (by simpa using hne) s

lemma isOf_of_scan (hne : token ≠ "") (hscan : Text.Scan token.toList 0 s starts) :
    ∀ span ∈ starts.map (ofToken token value), span.IsOf [(token, value)] s := by
  intro span hspan
  obtain ⟨start, hstart, rfl⟩ := List.mem_map.mp hspan
  exact ⟨token, value, List.mem_singleton_self _, hne, rfl, hscan.isPrefix start hstart⟩

/-- What is taken in `s` when the pairs have their turn one after the other: the occurrences that a
scan finds for the token of a pair, those left out that touch a span taken on an earlier turn. -/
inductive Keeps (s : List Char) : List Span → List (String × String) → List Span → Prop
  | done {taken : List Span} : Keeps s taken [] taken
  | idle {taken kept : List Span} {value : String} {rest : List (String × String)} :
      Keeps s taken rest kept → Keeps s taken (("", value) :: rest) kept
  | turn {taken kept : List Span} {token value : String} {rest : List (String × String)}
      {starts : List ℕ} : token ≠ "" → Text.Scan token.toList 0 s starts →
      Keeps s (taken ++ (starts.map (ofToken token value)).filter fun span =>
        ∀ other ∈ taken, span.Apart other) rest kept →
      Keeps s taken ((token, value) :: rest) kept

lemma foldl_claim {spans : List Span} (h : spans.Pairwise Apart) (taken : List Span) :
    spans.foldl claim taken =
      taken ++ spans.filter fun span => ∀ other ∈ taken, span.Apart other := by
  induction spans generalizing taken with
  | nil => simp
  | cons span spans ih =>
    obtain ⟨hspan, hspans⟩ := List.pairwise_cons.mp h
    have hfree : taken.all (span.isDisjoint ·) = true ↔ ∀ other ∈ taken, span.Apart other := by
      simp [isDisjoint_iff]
    rw [List.foldl_cons, claim]
    by_cases hclaim : ∀ other ∈ taken, span.Apart other
    · rw [if_pos (hfree.mpr hclaim), ih hspans, List.filter_cons_of_pos (by simpa using hclaim),
        List.append_assoc, List.singleton_append]
      -- The span that has just been taken leaves the others of its own turn alone.
      have hsame : ∀ next ∈ spans,
          decide (∀ other ∈ taken ++ [span], next.Apart other) =
            decide (∀ other ∈ taken, next.Apart other) := by
        intro next hnext
        have hapart : next.Apart span := (hspan next hnext).symm
        simp [or_imp, forall_and, hapart]
      rw [List.filter_congr hsame]
    · rw [if_neg (fun hall => hclaim (hfree.mp hall)), ih hspans,
        List.filter_cons_of_neg (by simpa using hclaim)]

lemma pairwise_ofToken (h : starts.Pairwise (· + token.toList.length ≤ ·)) :
    (starts.map (ofToken token value)).Pairwise Apart :=
  h.map _ fun _ _ hle => Or.inl hle

lemma candidates_eq (hne : token ≠ "") :
    candidates s token.toList value.toList =
      (Text.occurrences token.toList s).map (ofToken token value) := by
  have hnil : token.toList.isEmpty = false := by
    simpa [List.isEmpty_eq_false_iff] using hne
  rw [candidates, if_neg (by simp [hnil])]
  rfl

lemma claims_append_keeps (pairs : List (String × String)) (s : List Char) (taken : List Span) :
    Keeps s taken pairs (pairs.foldl
      (fun taken (token, value) => (candidates s token.toList value.toList).foldl claim taken)
      taken) := by
  induction pairs generalizing taken with
  | nil => exact .done
  | cons pair rest ih =>
    obtain ⟨token, value⟩ := pair
    rw [List.foldl_cons]
    by_cases hne : token = ""
    · subst hne
      exact .idle (ih taken)
    · have hscan := scan_token hne s
      have hapart : ((Text.occurrences token.toList s).map (Span.ofToken token value)).Pairwise
          Span.Apart :=
        pairwise_ofToken hscan.pairwise.2
      have hturn := foldl_claim hapart taken
      refine .turn hne hscan ?_
      rw [← hturn, ← candidates_eq hne]
      exact ih _

lemma keeps_claims (set : ReplacementSet) (s : List Char) : Keeps s [] set.pairs (set.claims s) :=
  claims_append_keeps set.pairs s []

lemma Keeps.unique {kept' : List Span} (h : Keeps s taken pairs kept)
    (h' : Keeps s taken pairs kept') : kept = kept' := by
  induction h with
  | done =>
    cases h'
    rfl
  | idle _ ih =>
    cases h' with
    | idle hrest => exact ih hrest
    | turn hne => exact absurd rfl hne
  | turn hne hscan _ ih =>
    cases h' with
    | idle => exact absurd rfl hne
    | turn _ hscan' hrest =>
      obtain rfl := hscan.unique hscan'
      exact ih hrest

lemma keeps_iff {set : ReplacementSet} : Keeps s [] set.pairs kept ↔ kept = set.claims s := by
  constructor
  · intro h
    exact h.unique (keeps_claims set s)
  · rintro rfl
    exact keeps_claims set s

lemma Keeps.pairwise (h : Keeps s taken pairs kept) (htaken : taken.Pairwise Apart) :
    kept.Pairwise Apart := by
  induction h with
  | done => exact htaken
  | idle _ ih => exact ih htaken
  | turn _ hscan _ ih =>
    refine ih (List.pairwise_append.mpr ⟨htaken, ?_, ?_⟩)
    · exact (pairwise_ofToken hscan.pairwise.2).filter _
    · intro other hother span hspan
      have hapart := (List.mem_filter.mp hspan).2
      simp only [decide_eq_true_eq] at hapart
      exact (hapart other hother).symm

lemma Keeps.isOf (h : Keeps s taken pairs kept) :
    ∀ span ∈ kept, span ∈ taken ∨ span.IsOf pairs s := by
  induction h with
  | done => exact fun span hspan => Or.inl hspan
  | idle _ ih =>
    intro span hspan
    exact (ih span hspan).imp_right fun hof => hof.mono (List.subset_cons_self ..)
  | @turn taken kept token value rest starts hne hscan _ ih =>
    intro span hspan
    rcases ih span hspan with hmem | hof
    · rw [List.mem_append, List.mem_filter, List.mem_map] at hmem
      rcases hmem with hmem | ⟨⟨start, hstart, rfl⟩, _⟩
      · exact Or.inl hmem
      · exact Or.inr ⟨token, value, List.mem_cons_self, hne, rfl, hscan.isPrefix start hstart⟩
    · exact Or.inr (hof.mono (List.subset_cons_self ..))

end ReplacementSet

end DeployForge
