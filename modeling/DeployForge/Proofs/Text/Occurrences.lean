import DeployForge.Text.Search
import Mathlib.Data.List.Infix
import Mathlib.Tactic.Common

namespace DeployForge.Text

variable {needle s gap rest : List Char} {start : ℕ} {starts : List ℕ}

/-- The starts of the occurrences that a scan finds in a text that itself starts at `start`. -/
inductive Scan (needle : List Char) : ℕ → List Char → List ℕ → Prop
  | done {start : ℕ} {s : List Char} : ¬ needle <:+: s → Scan needle start s []
  | found {start : ℕ} {gap rest : List Char} {starts : List ℕ} :
      (∀ i < gap.length, ¬ needle <+: (gap ++ needle ++ rest).drop i) →
      Scan needle (start + gap.length + needle.length) rest starts →
      Scan needle start (gap ++ needle ++ rest) ((start + gap.length) :: starts)

namespace Scan

lemma cons {c : Char} (hc : ¬ needle <+: c :: s) (h : Scan needle (start + 1) s starts) :
    Scan needle start (c :: s) starts := by
  cases h with
  | done hnone => exact .done fun hi => (List.infix_cons_iff.mp hi).elim hc hnone
  | @found _ gap rest starts hfirst hrest =>
    have hlength : start + 1 + gap.length = start + (c :: gap).length := by
      rw [List.length_cons]
      omega
    have hfirst' : ∀ i < (c :: gap).length, ¬ needle <+: (c :: gap ++ needle ++ rest).drop i := by
      intro i hi
      cases i with
      | zero => exact hc
      | succ i => exact hfirst i (Nat.lt_of_succ_lt_succ hi)
    rw [hlength] at hrest ⊢
    exact .found hfirst' hrest

lemma pairwise (h : Scan needle start s starts) :
    (∀ i ∈ starts, start ≤ i) ∧ starts.Pairwise (· + needle.length ≤ ·) := by
  induction h with
  | done => simp
  | @found start gap rest starts _ _ ih =>
    obtain ⟨hle, hpairwise⟩ := ih
    refine ⟨?_, List.pairwise_cons.mpr ⟨hle, hpairwise⟩⟩
    intro i hi
    rcases List.mem_cons.mp hi with rfl | hi
    · omega
    · have hi' := hle i hi
      omega

lemma isPrefix (h : Scan needle start s starts) :
    ∀ i ∈ starts, needle <+: s.drop (i - start) := by
  induction h with
  | done => simp
  | @found start gap rest starts _ hrest ih =>
    intro i hi
    rcases List.mem_cons.mp hi with rfl | hi
    · rw [Nat.add_sub_cancel_left, List.append_assoc, List.drop_left]
      exact List.prefix_append ..
    · have hle := hrest.pairwise.1 i hi
      have hi' : i - start =
          (gap ++ needle).length + (i - (start + gap.length + needle.length)) := by
        rw [List.length_append]
        omega
      rw [hi', List.drop_length_add_append]
      exact ih i hi

lemma not_lt_of_first {gap' rest' : List Char}
    (heq : gap ++ needle ++ rest = gap' ++ needle ++ rest')
    (hfirst : ∀ i < gap'.length, ¬ needle <+: (gap' ++ needle ++ rest').drop i) :
    ¬ gap.length < gap'.length := by
  intro hlt
  refine hfirst gap.length hlt ?_
  rw [← heq, List.append_assoc, List.drop_left]
  exact List.prefix_append ..

lemma unique {starts' : List ℕ} (h : Scan needle start s starts)
    (h' : Scan needle start s starts') : starts = starts' := by
  induction h generalizing starts' with
  | done hnone =>
    cases h' with
    | done => rfl
    | @found _ gap rest => exact absurd ⟨gap, rest, rfl⟩ hnone
  | @found start gap rest starts hfirst _ ih =>
    generalize htext : gap ++ needle ++ rest = text at h'
    cases h' with
    | done hnone => exact absurd ⟨gap, rest, htext⟩ hnone
    | @found _ gap' rest' starts' hfirst' hrest' =>
      -- Neither gap reaches beyond the other, since an occurrence stands behind each.
      have hlength : gap.length = gap'.length := by
        have hle := not_lt_of_first htext hfirst'
        have hge := not_lt_of_first htext.symm hfirst
        omega
      rw [List.append_assoc, List.append_assoc] at htext
      obtain ⟨rfl, hneedle⟩ := List.append_inj htext hlength
      obtain rfl := List.append_cancel_left hneedle
      rw [ih hrest']

lemma exists_reaching (h : Scan needle start s starts) {i : ℕ} (hi : needle <+: s.drop i) :
    ∃ first ∈ starts, first ≤ start + i ∧ start + i < first + needle.length := by
  induction h generalizing i with
  | done hnone => exact absurd (hi.isInfix.trans (List.drop_suffix i _).isInfix) hnone
  | @found start gap rest starts hfirst _ ih =>
    by_cases hgap : i < gap.length
    · exact absurd hi (hfirst i hgap)
    · by_cases hin : i < (gap ++ needle).length
      · rw [List.length_append] at hin
        exact ⟨_, List.mem_cons_self, by omega, by omega⟩
      · obtain ⟨j, rfl⟩ := Nat.exists_eq_add_of_le (Nat.le_of_not_lt hin)
        rw [List.drop_length_add_append] at hi
        obtain ⟨first, hmem, hle, hlt⟩ := ih hi
        rw [List.length_append]
        exact ⟨first, List.mem_cons_of_mem _ hmem, by omega, by omega⟩

lemma shift (h : Scan needle start s starts) (n : ℕ) :
    Scan needle (n + start) s (starts.map (n + ·)) := by
  induction h with
  | done hnone => exact .done hnone
  | @found start gap rest starts hfirst _ ih =>
    rw [List.map_cons, ← Nat.add_assoc]
    apply Scan.found hfirst
    rwa [← Nat.add_assoc, ← Nat.add_assoc] at ih

lemma skip {gap : List Char} (hnone : ∀ i < gap.length, ¬ needle <+: (gap ++ s).drop i)
    (h : Scan needle (start + gap.length) s starts) : Scan needle start (gap ++ s) starts := by
  induction gap generalizing start with
  | nil => exact h
  | cons c gap ih =>
    rw [List.cons_append]
    refine Scan.cons (hnone 0 (by simp)) (ih ?_ ?_)
    · intro i hi
      exact hnone (i + 1) (Nat.succ_lt_succ hi)
    · rwa [List.length_cons, Nat.add_comm gap.length, ← Nat.add_assoc] at h

lemma append {a b : List Char} {starts' : List ℕ} (ha : Scan needle start a starts)
    (hb : Scan needle (start + a.length) b starts')
    (hseam : ∀ i < a.length, needle <+: (a ++ b).drop i → needle <+: a.drop i) :
    Scan needle start (a ++ b) (starts ++ starts') := by
  induction ha with
  | done hnone =>
    refine skip ?_ hb
    intro i hi hstands
    exact hnone ((hseam i hi hstands).isInfix.trans (List.drop_suffix i _).isInfix)
  | @found start gap rest starts hfirst _ ih =>
    simp only [List.append_assoc, List.length_append] at hb hseam ⊢
    rw [← List.append_assoc, List.cons_append]
    refine Scan.found ?_ (ih ?_ ?_)
    · intro i hi hstands
      rw [List.append_assoc] at hstands
      have hin := hseam i (by omega) hstands
      rw [← List.append_assoc] at hin
      exact hfirst i hi hin
    · rwa [Nat.add_assoc, Nat.add_assoc]
    · intro i hi hstands
      have hin := hseam ((gap ++ needle).length + i)
        (by rw [List.length_append]; omega)
      simp only [← List.append_assoc, List.drop_length_add_append] at hin
      rw [List.append_assoc, List.drop_length_add_append] at hin
      exact hin hstands

end Scan

lemma occurrencesFrom_busy (needle s : List Char) (start busy : ℕ) :
    occurrencesFrom needle start busy s =
      occurrencesFrom needle (start + busy) 0 (s.drop busy) := by
  induction s generalizing start busy with
  | nil => simp [occurrencesFrom]
  | cons c s ih =>
    cases busy with
    | zero => rfl
    | succ busy =>
      rw [occurrencesFrom, ih, List.drop_succ_cons]
      congr 1
      omega

lemma scan_occurrencesFrom (hne : needle ≠ []) (start : ℕ) (s : List Char) :
    Scan needle start s (occurrencesFrom needle start 0 s) := by
  induction hlength : s.length using Nat.strong_induction_on generalizing start s with
  | _ n ih =>
  subst hlength
  cases s with
  | nil => exact .done (by simpa using hne)
  | cons c s =>
    rw [occurrencesFrom]
    by_cases hstarts : needle.isPrefixOf (c :: s) = true
    · rw [if_pos hstarts]
      obtain ⟨rest, hrest⟩ := List.isPrefixOf_iff_prefix.mp hstarts
      obtain ⟨d, tail, rfl⟩ := List.exists_cons_of_ne_nil hne
      rw [List.cons_append] at hrest
      obtain ⟨rfl, rfl⟩ := List.cons.inj hrest
      have hshort : rest.length < (d :: (tail ++ rest)).length := by
        rw [List.length_cons, List.length_append]
        omega
      have hbehind := ih rest.length hshort (start + (d :: tail).length) rest rfl
      have hnext : occurrencesFrom (d :: tail) (start + 1) ((d :: tail).length - 1)
          (tail ++ rest) = occurrencesFrom (d :: tail) (start + (d :: tail).length) 0 rest := by
        rw [occurrencesFrom_busy, List.length_cons, Nat.add_sub_cancel, List.drop_left]
        congr 1
        omega
      rw [hnext]
      exact @Scan.found _ _ [] _ _ (by simp) hbehind
    · rw [if_neg hstarts]
      rw [List.isPrefixOf_iff_prefix] at hstarts
      exact (ih s.length (by simp) (start + 1) s rfl).cons hstarts

lemma scan_occurrences (hne : needle ≠ []) (s : List Char) :
    Scan needle 0 s (occurrences needle s) :=
  scan_occurrencesFrom hne 0 s

end DeployForge.Text
