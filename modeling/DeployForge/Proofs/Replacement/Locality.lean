import DeployForge.Proofs.Replacement.Repeats

namespace DeployForge

variable {s t a b : List Char} {set : ReplacementSet} {span other : Span} {spans more : List Span}
  {taken takenA takenB keptA keptB : List Span} {pairs rest : List (String × String)}
  {token value : String} {start n : ℕ} {starts : List ℕ}

namespace Span

def shift (n : ℕ) (span : Span) : Span := ⟨n + span.start, n + span.stop, span.value⟩

lemma shift_ofToken (n : ℕ) (token value : String) (start : ℕ) :
    shift n (ofToken token value start) = ofToken token value (n + start) := by
  simp [shift, ofToken, Nat.add_assoc]

lemma apart_shift_iff : (shift n span).Apart (shift n other) ↔ span.Apart other := by
  simp only [Apart, shift]
  omega

lemma apart_shift_of_le (h : span.stop ≤ n) (other : Span) : span.Apart (shift n other) :=
  Or.inl (Nat.le_add_right_of_le h)

lemma IsOf.stop_le (h : span.IsOf pairs s) : span.stop ≤ s.length := by
  obtain ⟨token, value, _, hne, hspan, hstands⟩ := h
  have hlength := hstands.length_le
  have hpos := length_pos hne
  have hstop : span.stop = span.start + token.toList.length := congrArg Span.stop hspan
  rw [List.length_drop] at hlength
  omega

end Span

namespace ReplacementSet

open DeployForge.Span

/-- No occurrence of a token begins in `a` and ends in `b`. -/
def IsSeam (pairs : List (String × String)) (a b : List Char) : Prop :=
  ∀ span : Span, span.IsOf pairs (a ++ b) → ¬ (span.start < a.length ∧ a.length < span.stop)

instance : Decidable (IsSeam pairs a b) :=
  decidable_of_iff
    (∀ span ∈ occurrencesOf pairs (a ++ b), ¬ (span.start < a.length ∧ a.length < span.stop))
    (by simp only [IsSeam, mem_occurrencesOf])

lemma IsSeam.mono (h : IsSeam pairs a b) (hsub : rest ⊆ pairs) : IsSeam rest a b :=
  fun span hof => h span (hof.mono hsub)

lemma IsSeam.scan_append {starts' : List ℕ} (h : IsSeam ((token, value) :: rest) a b)
    (hne : token ≠ "") (ha : Text.Scan token.toList 0 a starts)
    (hb : Text.Scan token.toList 0 b starts') :
    Text.Scan token.toList 0 (a ++ b) (starts ++ starts'.map (a.length + ·)) := by
  have hb' : Text.Scan token.toList (0 + a.length) b (starts'.map (a.length + ·)) := by
    rw [Nat.zero_add]
    exact hb.shift a.length
  refine ha.append hb' ?_
  intro i hi hstands
  have hends := h (ofToken token value i)
    ⟨token, value, List.mem_cons_self, hne, rfl, hstands⟩
  simp only [ofToken, not_and, not_lt] at hends
  have hle := hends hi
  rw [List.drop_append_of_le_length (Nat.le_of_lt hi)] at hstands
  apply List.prefix_of_prefix_length_le hstands (List.prefix_append ..)
  rw [List.length_drop]
  omega

lemma forall_apart_left_iff (htaken : taken.Perm (takenA ++ takenB.map (shift n)))
    (hspan : span.stop ≤ n) :
    (∀ other ∈ taken, span.Apart other) ↔ ∀ other ∈ takenA, span.Apart other := by
  simp only [htaken.mem_iff, List.mem_append, List.mem_map, or_imp, forall_and]
  constructor
  · exact And.left
  · intro hfree
    refine ⟨hfree, ?_⟩
    rintro _ ⟨other, _, rfl⟩
    exact apart_shift_of_le hspan other

lemma forall_apart_right_iff (htaken : taken.Perm (takenA ++ takenB.map (shift n)))
    (hin : ∀ other ∈ takenA, other.stop ≤ n) :
    (∀ other ∈ taken, (shift n span).Apart other) ↔ ∀ other ∈ takenB, span.Apart other := by
  simp only [htaken.mem_iff, List.mem_append, List.mem_map, or_imp, forall_and]
  constructor
  · intro hfree other hother
    exact apart_shift_iff.mp (hfree.2 _ ⟨other, hother, rfl⟩)
  · intro hfree
    refine ⟨?_, ?_⟩
    · intro other hother
      exact (apart_shift_of_le (hin other hother) span).symm
    · rintro _ ⟨other, hother, rfl⟩
      exact apart_shift_iff.mpr (hfree other hother)

lemma turn_append (htaken : taken.Perm (takenA ++ takenB.map (shift n)))
    (hin : ∀ other ∈ takenA, other.stop ≤ n) (hends : ∀ span ∈ spans, span.stop ≤ n)
    (more : List Span) :
    (taken ++ (spans ++ more.map (shift n)).filter
      fun span => ∀ other ∈ taken, span.Apart other).Perm
        ((takenA ++ spans.filter fun span => ∀ other ∈ takenA, span.Apart other) ++
          (takenB ++ more.filter fun span => ∀ other ∈ takenB, span.Apart other).map
            (shift n)) := by
  have hleft : spans.filter (fun span => ∀ other ∈ taken, span.Apart other) =
      spans.filter fun span => ∀ other ∈ takenA, span.Apart other := by
    apply List.filter_congr
    intro span hspan
    exact decide_eq_decide.mpr (forall_apart_left_iff htaken (hends span hspan))
  have hright : more.filter ((fun span => decide (∀ other ∈ taken, span.Apart other)) ∘ shift n) =
      more.filter fun span => ∀ other ∈ takenB, span.Apart other := by
    apply List.filter_congr
    intro span _
    exact decide_eq_decide.mpr (forall_apart_right_iff htaken hin)
  rw [List.filter_append, List.filter_map, hleft, hright, List.map_append]
  refine (htaken.append_right _).trans ?_
  rw [List.append_assoc, List.append_assoc]
  exact (List.perm_append_comm_assoc ..).append_left _

lemma Keeps.append (ha : Keeps a takenA pairs keptA) (hb : Keeps b takenB pairs keptB)
    (hseam : IsSeam pairs a b) (htaken : taken.Perm (takenA ++ takenB.map (shift a.length)))
    (hin : ∀ span ∈ takenA, span.stop ≤ a.length) :
    ∃ kept, Keeps (a ++ b) taken pairs kept ∧
      kept.Perm (keptA ++ keptB.map (shift a.length)) := by
  -- Both texts go through the turns together, and `taken` is what the two have, in some order.
  induction ha generalizing taken takenB with
  | done =>
    cases hb
    exact ⟨taken, .done, htaken⟩
  | idle _ ih =>
    cases hb with
    | idle hb =>
      obtain ⟨kept, hkeeps, hkept⟩ := ih hb (hseam.mono (List.subset_cons_self ..)) htaken hin
      exact ⟨kept, .idle hkeeps, hkept⟩
    | turn hne => exact absurd rfl hne
  | @turn takenA keptA token value rest starts hne hscan _ ih =>
    cases hb with
    | idle => exact absurd rfl hne
    | @turn _ _ _ _ _ starts' _ hscan' hb =>
      have hends : ∀ span ∈ starts.map (ofToken token value), span.stop ≤ a.length :=
        fun span hspan => (isOf_of_scan hne hscan span hspan).stop_le
      have hturn : (starts ++ starts'.map (a.length + ·)).map (ofToken token value) =
          starts.map (ofToken token value) ++
            (starts'.map (ofToken token value)).map (shift a.length) := by
        simp only [List.map_append, List.map_map, Function.comp_def, shift_ofToken]
      have hnext := turn_append htaken hin hends (starts'.map (ofToken token value))
      rw [← hturn] at hnext
      have hin' : ∀ span ∈ takenA ++ (starts.map (ofToken token value)).filter
          (fun span => ∀ other ∈ takenA, span.Apart other), span.stop ≤ a.length := by
        intro span hspan
        rcases List.mem_append.mp hspan with hspan | hspan
        · exact hin span hspan
        · exact hends span (List.mem_of_mem_filter hspan)
      obtain ⟨kept, hkeeps, hkept⟩ :=
        ih hb (hseam.mono (List.subset_cons_self ..)) hnext hin'
      exact ⟨kept, .turn hne (hseam.scan_append hne hscan hscan') hkeeps, hkept⟩

lemma claims_append (hseam : IsSeam set.pairs a b) :
    (set.claims (a ++ b)).Perm (set.claims a ++ (set.claims b).map (shift a.length)) := by
  obtain ⟨kept, hkeeps, hkept⟩ := (keeps_claims set a).append (keeps_claims set b) hseam
    (List.Perm.refl []) (List.forall_mem_nil _)
  rwa [keeps_iff.mp hkeeps] at hkept

lemma spans_append (hseam : IsSeam set.pairs a b) :
    set.spans (a ++ b) = set.spans a ++ (set.spans b).map (shift a.length) := by
  apply spans_eq_of_perm
  · have hspans := (spans_perm set a).append ((spans_perm set b).map (shift a.length))
    exact hspans.trans (claims_append hseam).symm
  · refine List.pairwise_append.mpr ⟨pairwise_spans set a, ?_, ?_⟩
    · apply (pairwise_spans set b).map
      intro span other hle
      exact Nat.add_le_add_left hle a.length
    · intro span hspan other hother
      obtain ⟨other, _, rfl⟩ := List.mem_map.mp hother
      exact Nat.le_add_right_of_le (isOf_spans set a span hspan).stop_le

namespace Decomposes

variable {s' t' gap : List Char}

lemma eq_stitch (h : Decomposes pairs start spans s t) : t = stitch start s spans := by
  induction h with
  | rest => rfl
  | @span start gap s t token value spans _ _ _ ih =>
    have htake : (gap ++ token.toList ++ s).take (start + gap.length - start) = gap := by
      rw [Nat.add_sub_cancel_left, List.append_assoc, List.take_left]
    have hdrop : (gap ++ token.toList ++ s).drop
        (start + gap.length + token.toList.length - start) = s := by
      rw [Nat.add_assoc, Nat.add_sub_cancel_left, ← List.length_append, List.drop_left]
    simp only [stitch, ofToken, htake, hdrop, ih]

lemma shift (h : Decomposes pairs start spans s t) (n : ℕ) :
    Decomposes pairs (n + start) (spans.map (Span.shift n)) s t := by
  induction h with
  | rest => exact .rest
  | @span start gap s t token value spans hmem hne _ ih =>
    rw [List.map_cons, shift_ofToken, ← Nat.add_assoc]
    apply Decomposes.span hmem hne
    rwa [← Nat.add_assoc, ← Nat.add_assoc] at ih

lemma gap_append (h : Decomposes pairs (start + gap.length) spans s t) :
    Decomposes pairs start spans (gap ++ s) (gap ++ t) := by
  cases h with
  | rest => exact .rest
  | @span _ gap' s t token value spans hmem hne h =>
    have hplace : start + gap.length + gap'.length = start + (gap ++ gap').length := by
      rw [List.length_append, Nat.add_assoc]
    simp only [← List.append_assoc]
    rw [hplace] at h ⊢
    exact .span hmem hne h

lemma append (h : Decomposes pairs start spans s t)
    (h' : Decomposes pairs (start + s.length) more s' t') :
    Decomposes pairs start (spans ++ more) (s ++ s') (t ++ t') := by
  induction h with
  | rest => exact h'.gap_append
  | @span start gap s t token value spans hmem hne _ ih =>
    rw [List.cons_append, List.append_assoc _ s, List.append_assoc _ t]
    apply Decomposes.span hmem hne
    apply ih
    simpa only [List.length_append, ← Nat.add_assoc] using h'

end Decomposes

lemma apply_append {a b : String} (hseam : IsSeam set.pairs a.toList b.toList) :
    set.apply (a ++ b) = set.apply a ++ set.apply b := by
  have hb : Decomposes set.found (0 + a.toList.length)
      ((set.spans b.toList).map (Span.shift a.toList.length)) b.toList (set.apply b).toList := by
    rw [Nat.zero_add]
    exact (decomposes_found set b).shift a.toList.length
  have hboth := ((decomposes_found set a).append hb).eq_stitch
  rw [← spans_append hseam, ← String.toList_append, ← String.toList_append] at hboth
  apply String.toList_inj.mp
  rw [hboth, apply, String.toList_ofList]

section Lines

variable {c : Char}

lemma mem_of_covers (hstands : token.toList <+: s.drop start) {i : ℕ} (hle : start ≤ i)
    (hlt : i < start + token.toList.length) (hi : s[i]? = some c) : c ∈ token.toList := by
  obtain ⟨k, rfl⟩ := Nat.exists_eq_add_of_le hle
  have hk : k < token.toList.length := by omega
  have hsame := List.prefix_iff_getElem?.mp hstands k hk
  rw [List.getElem?_drop, hi] at hsame
  rw [Option.some.inj hsame]
  exact List.getElem_mem hk

lemma not_covers (hc : ∀ pair ∈ pairs, c ∉ pair.1.toList) (hof : span.IsOf pairs s) {i : ℕ}
    (hi : s[i]? = some c) : ¬ (span.start ≤ i ∧ i < span.stop) := by
  obtain ⟨token, value, hmem, _, hspan, hstands⟩ := hof
  rintro ⟨hle, hlt⟩
  rw [hspan] at hlt
  exact hc _ hmem (mem_of_covers hstands hle hlt hi)

lemma isSeam_before (hc : ∀ pair ∈ pairs, c ∉ pair.1.toList) (a b : List Char) :
    IsSeam pairs a (c :: b) := by
  intro span hof hcross
  exact not_covers hc hof (by simp) ⟨Nat.le_of_lt hcross.1, hcross.2⟩

lemma isSeam_behind (hc : ∀ pair ∈ pairs, c ∉ pair.1.toList) (b : List Char) :
    IsSeam pairs [c] b := by
  intro span hof hcross
  simp only [List.length_singleton, Nat.lt_one_iff] at hcross
  exact not_covers hc hof (i := 0) (by simp) (by omega)

lemma apply_of_absent {text : String} (h : ∀ span : Span, ¬ span.IsOf set.pairs text.toList) :
    set.apply text = text := by
  have hnone : set.spans text.toList = [] := by
    apply List.eq_nil_iff_forall_not_mem.mpr
    intro span hspan
    exact h span (isOf_spans set _ span hspan)
  rw [apply, hnone, stitch, String.ofList_toList]

lemma apply_newline (hc : ∀ pair ∈ set.pairs, '\n' ∉ pair.1.toList) : set.apply "\n" = "\n" := by
  apply apply_of_absent
  intro span hof
  have hlt := hof.start_lt_stop
  have hle : span.stop ≤ 1 := hof.stop_le
  exact not_covers hc hof (i := 0) rfl (by omega)

lemma apply_line (hc : ∀ pair ∈ set.pairs, '\n' ∉ pair.1.toList) (line rest : String) :
    set.apply (line ++ "\n" ++ rest) = set.apply line ++ "\n" ++ set.apply rest := by
  have hbefore : IsSeam set.pairs line.toList ("\n" ++ rest).toList := by
    rw [String.toList_append]
    exact isSeam_before hc _ _
  have hbehind : IsSeam set.pairs "\n".toList rest.toList := isSeam_behind hc _
  rw [String.append_assoc, apply_append hbefore, apply_append hbehind, apply_newline hc,
    String.append_assoc]

def linesOf (text : String) : List String := (text.toList.splitOn '\n').map .ofList

lemma intercalate_linesOf (text : String) : "\n".intercalate (linesOf text) = text := by
  apply String.toList_inj.mp
  have hlines : (linesOf text).map String.toList = text.toList.splitOn '\n' := by
    simp [linesOf, Function.comp_def]
  rw [String.toList_intercalate, hlines]
  exact List.intercalate_splitOn '\n'

lemma apply_intercalate (hc : ∀ pair ∈ set.pairs, '\n' ∉ pair.1.toList) (lines : List String) :
    set.apply ("\n".intercalate lines) = "\n".intercalate (lines.map set.apply) := by
  induction lines with
  | nil =>
    apply apply_of_absent
    intro span hof
    exact Nat.not_lt_zero _ (hof.start_lt_stop.trans_le hof.stop_le)
  | cons line lines ih =>
    cases lines with
    | nil => simp
    | cons next lines =>
      rw [List.map_cons, List.map_cons, String.intercalate_cons_cons,
        String.intercalate_cons_cons, apply_line hc, ih, List.map_cons]

end Lines

/-- The parts of a text are substituted apart from each other where no occurrence of a token spans
both. With tokens that stay within a line this is so for the lines, and a line that is edited
leaves the results of the others as they are. -/
theorem apply_local (set : ReplacementSet) :
    (∀ a b : String, IsSeam set.pairs a.toList b.toList →
      set.apply (a ++ b) = set.apply a ++ set.apply b) ∧
    ((∀ pair ∈ set.pairs, '\n' ∉ pair.1.toList) →
      (∀ text, set.apply text = "\n".intercalate ((linesOf text).map set.apply)) ∧
      ∀ text i line, set.apply ("\n".intercalate ((linesOf text).set i line)) =
        "\n".intercalate (((linesOf text).map set.apply).set i (set.apply line))) := by
  refine ⟨fun _ _ => apply_append, fun hc => ⟨?_, ?_⟩⟩
  · intro text
    rw [← apply_intercalate hc, intercalate_linesOf]
  · intro text i line
    rw [apply_intercalate hc, List.map_set]

def linked : ReplacementSet := ⟨[("ab", "1"), ("ba", "2"), ("", "3")]⟩

theorem apply_local_linked :
    (IsSeam linked.pairs "xa".toList "abab".toList ∧
      linked.apply ("xa" ++ "abab") = linked.apply "xa" ++ linked.apply "abab") ∧
      ((∀ pair ∈ linked.pairs, '\n' ∉ pair.1.toList) ∧
        linked.apply "ab\nbab" = "\n".intercalate ((linesOf "ab\nbab").map linked.apply)) ∧
      linked.apply "xaabab" = "xa11" := by
  have hseam : IsSeam linked.pairs "xa".toList "abab".toList := by decide
  have hc : ∀ pair ∈ linked.pairs, '\n' ∉ pair.1.toList := by decide
  refine ⟨⟨hseam, ?_⟩, ⟨hc, ?_⟩, by cbv⟩
  · exact (apply_local linked).1 _ _ hseam
  · exact ((apply_local linked).2 hc).1 _

end ReplacementSet

end DeployForge
