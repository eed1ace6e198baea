import DeployForge.Proofs.Replacement.Untouched

/-!
A token that is listed again. By the turn of the later pair every match of its token touches a
span that has been taken, so the pair takes nothing, and each span that is replaced holds the
value that a look-up of its token finds.
-/

namespace DeployForge

variable {s : List Char} {set : ReplacementSet} {span : Span} {taken kept : List Span}
  {pairs early late rest : List (String × String)} {token value : String} {start : ℕ}

namespace Span

def within (span : Span) (s : List Char) : List Char :=
  (s.drop span.start).take (span.stop - span.start)

lemma within_ofToken (hstands : token.toList <+: s.drop start) :
    (ofToken token value start).within s = token.toList := by
  simp only [within, ofToken, Nat.add_sub_cancel_left]
  exact (List.prefix_iff_eq_take.mp hstands).symm

end Span

namespace ReplacementSet

open DeployForge.Span

def tokens (set : ReplacementSet) : List String := set.pairs.map Prod.fst

def Spent (s : List Char) (taken : List Span) (token : String) : Prop :=
  ∀ start ∈ Text.occurrences token.toList s, ∀ value : String,
    ∃ other ∈ taken, ¬ (ofToken token value start).Apart other

lemma Keeps.of_spent (h : Keeps s taken ((token, value) :: rest) kept)
    (hspent : token ≠ "" → Spent s taken token) : Keeps s taken rest kept := by
  cases h with
  | idle hrest => exact hrest
  | @turn _ _ _ _ _ starts hne hscan hrest =>
    obtain rfl := hscan.unique (scan_token hne s)
    have hnone : ((Text.occurrences token.toList s).map (ofToken token value)).filter
        (fun span => ∀ other ∈ taken, span.Apart other) = [] := by
      apply List.filter_eq_nil_iff.mpr
      intro span hspan hfree
      obtain ⟨start, hstart, rfl⟩ := List.mem_map.mp hspan
      obtain ⟨other, hother, htouches⟩ := hspent hne start hstart value
      exact htouches (of_decide_eq_true hfree other hother)
    rwa [hnone, List.append_nil] at hrest

lemma spent_of_mem (hne : token ≠ "") (hmem : token ∈ tokens ⟨pairs⟩) :
    Spent s (claims ⟨pairs⟩ s) token := by
  obtain ⟨⟨token, value⟩, hpair, rfl⟩ := List.mem_map.mp hmem
  obtain ⟨early, late, rfl⟩ := List.append_of_mem hpair
  have hkeeps := keeps_claims_append early ((token, value) :: late) s
  intro start hstart value'
  rcases hkeeps.kept_or_touches hne hstart with hkept | ⟨other, hother, htouches⟩
  · have hlt := Nat.lt_add_of_pos_right (n := start) (length_pos hne)
    exact ⟨_, hkept, not_apart_ofToken (Nat.le_refl start) hlt⟩
  · exact ⟨other, hkeeps.subset hother, htouches⟩

lemma claims_of_repeated (hmem : token ∈ tokens ⟨early⟩) (s : List Char) :
    claims ⟨early ++ (token, value) :: late⟩ s = claims ⟨early ++ late⟩ s := by
  have hkeeps := keeps_claims_append early ((token, value) :: late) s
  have hskips := hkeeps.of_spent fun hne => spent_of_mem hne hmem
  exact hskips.unique (keeps_claims_append early late s)

lemma value?_append (h : value? ⟨early⟩ token = some value) :
    value? ⟨early ++ late⟩ token = some value := by
  rw [value?] at h ⊢
  rw [List.lookup_append, h, Option.some_or]

lemma value?_concat (hnew : token ∉ tokens ⟨early⟩) :
    value? ⟨early ++ [(token, value)]⟩ token = some value := by
  have hnone : early.lookup token = none := by
    apply List.lookup_eq_none_iff.mpr
    intro pair hpair
    apply bne_iff_ne.mpr
    rintro rfl
    exact hnew (List.mem_map_of_mem hpair)
  rw [value?, List.lookup_append, hnone, Option.none_or]
  simp

def found (set : ReplacementSet) : List (String × String) :=
  set.pairs.filter fun (token, value) => set.value? token = some value

lemma mem_found : (token, value) ∈ set.found ↔ set.value? token = some value := by
  simp only [found, List.mem_filter, decide_eq_true_eq, and_iff_right_iff_imp]
  intro h
  obtain ⟨early, late, hpairs, _⟩ := List.lookup_eq_some_iff.mp h
  simp [hpairs]

lemma found_subset (early late : List (String × String)) :
    found ⟨early⟩ ⊆ found ⟨early ++ late⟩ := by
  rintro ⟨token, value⟩ hmem
  exact mem_found.mpr (value?_append (mem_found.mp hmem))

lemma isOf_found (set : ReplacementSet) (s : List Char) :
    ∀ span ∈ set.claims s, span.IsOf set.found s := by
  obtain ⟨pairs⟩ := set
  -- Whether a pair takes anything hangs on those before it, so the last one is split off: either
  -- it repeats a token, or a look-up finds it.
  induction pairs using List.reverseRecOn with
  | nil => exact List.forall_mem_nil _
  | append_singleton pairs pair ih =>
    obtain ⟨token, value⟩ := pair
    intro span hspan
    by_cases hmem : token ∈ tokens ⟨pairs⟩
    · rw [claims_of_repeated hmem, List.append_nil] at hspan
      exact (ih span hspan).mono (found_subset _ _)
    · rcases (keeps_claims_append pairs [(token, value)] s).isOf span hspan with hold | hnew
      · exact (ih span hold).mono (found_subset _ _)
      · apply hnew.mono
        apply List.cons_subset.mpr
        exact ⟨mem_found.mpr (value?_concat hmem), List.nil_subset _⟩

lemma value?_within (hspan : span ∈ set.claims s) :
    set.value? (.ofList (span.within s)) = some (.ofList span.value) := by
  obtain ⟨token, value, hmem, _, heq, hstands⟩ := isOf_found set s span hspan
  rw [heq, within_ofToken hstands]
  simpa [ofToken] using mem_found.mp hmem

lemma decomposes_found (set : ReplacementSet) (text : String) :
    Decomposes set.found 0 (set.spans text.toList) text.toList (set.apply text).toList := by
  rw [apply, String.toList_ofList]
  apply decomposes_stitch
  · intro span hspan
    exact isOf_found set text.toList span ((spans_perm set text.toList).subset hspan)
  · exact pairwise_spans set text.toList
  · exact fun _ _ => Nat.zero_le _

/-- A pair whose token stands earlier in the list may as well be left out, and a span holds what
is looked up for the text that it covers. -/
theorem repeated_inert (set : ReplacementSet) (text : String) :
    (∀ early token value late, set.pairs = early ++ (token, value) :: late →
      token ∈ tokens ⟨early⟩ → apply ⟨early ++ late⟩ text = set.apply text) ∧
    Decomposes set.found 0 (set.spans text.toList) text.toList (set.apply text).toList ∧
    ∀ span ∈ set.spans text.toList,
      set.value? (.ofList (span.within text.toList)) = some (.ofList span.value) := by
  refine ⟨?_, decomposes_found set text, ?_⟩
  · intro early token value late hpairs hmem
    obtain ⟨pairs⟩ := set
    subst hpairs
    simp only [apply, spans, claims_of_repeated hmem]
  · intro span hspan
    exact value?_within ((spans_perm set text.toList).subset hspan)

def interleaved : ReplacementSet := ⟨[("ab", "1"), ("ba", "2"), ("ab", "3")]⟩

theorem repeated_inert_interleaved :
    "ab" ∈ tokens ⟨[("ab", "1"), ("ba", "2")]⟩ ∧
      apply ⟨[("ab", "1"), ("ba", "2")]⟩ "babab" = interleaved.apply "babab" ∧
      interleaved.apply "babab" = "b11" := by
  have hmem : "ab" ∈ tokens ⟨[("ab", "1"), ("ba", "2")]⟩ := by decide
  have happly : interleaved.apply "babab" = "b11" := by cbv
  exact ⟨hmem, (repeated_inert interleaved "babab").1 _ _ _ [] rfl hmem, happly⟩

end ReplacementSet

end DeployForge
