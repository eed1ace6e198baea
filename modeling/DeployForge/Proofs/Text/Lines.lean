import DeployForge.Proofs.Text.Pieces
import DeployForge.Proofs.Text.Trimming
import DeployForge.Text.Lines

namespace DeployForge.Text

/-- A line that reads back as it is when a line feed is put behind it. -/
def IsLine (line : Line) : Prop := '\n' ∉ line ∧ line.getLast? ≠ some '\r'

instance : DecidablePred IsLine := fun _ => inferInstanceAs (Decidable (_ ∧ _))

variable {line : Line} {ls : List Line}

@[simp] lemma unlines_nil : unlines [] = [] := rfl

@[simp] lemma unlines_cons (line : Line) (ls : List Line) :
    unlines (line :: ls) = line ++ '\n' :: unlines ls :=
  rfl

lemma unlines_append (ls ms : List Line) : unlines (ls ++ ms) = unlines ls ++ unlines ms := by
  induction ls with
  | nil => rfl
  | cons line ls ih => simp [ih]

lemma splitAt_unlines_append (hls : ∀ line ∈ ls, '\n' ∉ line) (s : List Char) :
    splitAt '\n' (unlines ls ++ s) = ls ++ splitAt '\n' s := by
  induction ls with
  | nil => rfl
  | cons line ls ih =>
    rw [List.forall_mem_cons] at hls
    rw [unlines_cons, List.append_assoc, List.cons_append, splitAt_piece hls.1, ih hls.2,
      List.cons_append]

lemma mem_unlines {c : Char} (hc : c ∈ line) (hl : line ∈ ls) : c ∈ unlines ls := by
  induction ls with
  | nil => cases hl
  | cons head ls ih =>
    rw [unlines_cons, List.mem_append, List.mem_cons]
    rcases List.mem_cons.mp hl with rfl | hl
    · exact Or.inl hc
    · exact Or.inr (Or.inr (ih hl))

lemma isBlank_unlines_iff : IsBlank (unlines ls) ↔ ∀ line ∈ ls, IsBlank line := by
  constructor
  · intro h line hl c hc
    exact h c (mem_unlines hc hl)
  · intro h
    induction ls with
    | nil => exact List.forall_mem_nil _
    | cons line ls ih =>
      rw [List.forall_mem_cons] at h
      rw [unlines_cons]
      exact h.1.append (List.forall_mem_cons.mpr ⟨rfl, ih h.2⟩)

lemma lines_cons {c : Char} {s : List Char} (hn : c ≠ '\n') (hr : c = '\r' → s.head? ≠ some '\n') :
    lines (c :: s) = match lines s with
      | [] => [[c]]
      | line :: more => (c :: line) :: more := by
  rw [lines.eq_def]
  split
  · next h => cases h
  · next h => exact absurd (List.cons.inj h).1 hn
  · next h =>
    obtain ⟨rfl, rfl⟩ := List.cons.inj h
    exact absurd rfl (hr rfl)
  · next h =>
    obtain ⟨rfl, rfl⟩ := List.cons.inj h
    rfl

lemma lines_append (hl : IsLine line) (rest : List Char) :
    lines (line ++ '\n' :: rest) = line :: lines rest := by
  induction line with
  | nil => rw [List.nil_append, lines]
  | cons c line ih =>
    obtain ⟨hn, hr⟩ := hl
    rw [List.mem_cons, not_or] at hn
    have htail : IsLine line := by
      refine ⟨hn.2, ?_⟩
      cases line with
      | nil => simp
      | cons d line => rwa [List.getLast?_cons_cons] at hr
    rw [List.cons_append, lines_cons (Ne.symm hn.1), ih htail]
    rintro rfl
    cases line with
    | nil => simp at hr
    | cons d line =>
      intro hd
      exact hn.2 (by simp_all)

lemma lines_unlines_append (hls : ∀ line ∈ ls, IsLine line) (rest : List Char) :
    lines (unlines ls ++ rest) = ls ++ lines rest := by
  induction ls with
  | nil => rfl
  | cons line ls ih =>
    rw [unlines_cons, List.append_assoc, List.cons_append, lines_append (hls line (by simp)),
      ih fun l hl => hls l (by simp [hl]), List.cons_append]

lemma lines_of_notMem (hn : '\n' ∉ line) (hne : line ≠ []) : lines line = [line] := by
  induction line with
  | nil => exact absurd rfl hne
  | cons c line ih =>
    rw [List.mem_cons, not_or] at hn
    have hr : c = '\r' → line.head? ≠ some '\n' := by
      intro _ hd
      exact hn.2 (List.mem_of_head? hd)
    rw [lines_cons (Ne.symm hn.1) hr]
    cases line with
    | nil => rfl
    | cons d line => rw [ih hn.2 (by simp)]

def withoutReturn (line : Line) : Line :=
  if line.getLast? = some '\r' then line.dropLast else line

lemma lines_append_return (hn : '\n' ∉ line) (rest : List Char) :
    lines (line ++ '\r' :: '\n' :: rest) = line :: lines rest := by
  induction line with
  | nil => rw [List.nil_append, lines]
  | cons c line ih =>
    rw [List.mem_cons, not_or] at hn
    have hr : c = '\r' → (line ++ '\r' :: '\n' :: rest).head? ≠ some '\n' := by
      intro _
      cases line with
      | nil => simp
      | cons d line => simpa using Ne.symm (List.ne_of_not_mem_cons hn.2)
    rw [List.cons_append, lines_cons (Ne.symm hn.1) hr, ih hn.2]

lemma lines_append_feed (hn : '\n' ∉ line) (rest : List Char) :
    lines (line ++ '\n' :: rest) = withoutReturn line :: lines rest := by
  by_cases hr : line.getLast? = some '\r'
  · obtain ⟨line, rfl⟩ := List.getLast?_eq_some_iff.mp hr
    rw [withoutReturn, if_pos hr, List.dropLast_concat, List.append_assoc, List.singleton_append]
    exact lines_append_return (fun hmem => hn (List.mem_append_left _ hmem)) rest
  · rw [withoutReturn, if_neg hr]
    exact lines_append ⟨hn, hr⟩ rest

lemma trim_withoutReturn (line : Line) : trim (withoutReturn line) = trim line := by
  rw [withoutReturn]
  split
  · next hr =>
    obtain ⟨line, rfl⟩ := List.getLast?_eq_some_iff.mp hr
    rw [List.dropLast_concat]
    exact (trim_append_blanks line (List.forall_mem_nil _) (by decide)).symm
  · rfl

def EndsLine (s : List Char) : Prop := s = [] ∨ ∃ t, s = t ++ ['\n']

lemma lines_append_of_endsLine {log : List Char} (h : EndsLine log) (rest : List Char) :
    lines (log ++ rest) = lines log ++ lines rest := by
  obtain rfl | ⟨t, rfl⟩ := h
  · rfl
  -- One line is split off after the other.
  induction hlength : t.length using Nat.strong_induction_on generalizing t with
  | _ n ih =>
    subst hlength
    rw [List.append_assoc, List.singleton_append]
    by_cases hn : '\n' ∈ t
    · obtain ⟨first, more, rfl, hfirst⟩ := List.eq_append_cons_of_mem hn
      have hmore := ih more.length (by simp; omega) more rfl
      rw [List.append_assoc, List.singleton_append] at hmore
      simp only [List.append_assoc, List.cons_append, lines_append_feed hfirst, hmore]
    · rw [lines_append_feed hn, lines_append_feed hn]
      rfl

lemma head?_ne_feed {c : Char} {s : List Char} (h : ∀ rest, c = '\r' → s = '\n' :: rest → False) :
    c = '\r' → s.head? ≠ some '\n' := by
  intro hr hfeed
  obtain ⟨rest, hs⟩ := List.head?_eq_some_iff.mp hfeed
  exact h rest hr hs

lemma mem_of_mem_lines {s : List Char} {c : Char} (hl : line ∈ lines s) (hc : c ∈ line) :
    c ∈ s := by
  induction s using lines.induct generalizing line with
  | case1 => cases hl
  | case2 rest ih =>
    rw [lines] at hl
    rcases List.mem_cons.mp hl with rfl | hl
    · cases hc
    · exact List.mem_cons_of_mem _ (ih hl hc)
  | case3 rest ih =>
    rw [lines] at hl
    rcases List.mem_cons.mp hl with rfl | hl
    · cases hc
    · exact List.mem_cons_of_mem _ (List.mem_cons_of_mem _ (ih hl hc))
  | case4 c rest hn hr hnone _ =>
    rw [lines_cons hn (head?_ne_feed hr), hnone, List.mem_singleton] at hl
    subst hl
    exact List.mem_cons.mpr (.inl (List.mem_singleton.mp hc))
  | case5 c rest hn hr first more hsome ih =>
    rw [lines_cons hn (head?_ne_feed hr), hsome] at hl
    rw [hsome] at ih
    rcases List.mem_cons.mp hl with rfl | hl
    · rcases List.mem_cons.mp hc with rfl | hc
      · exact List.mem_cons_self
      · exact List.mem_cons_of_mem _ (ih List.mem_cons_self hc)
    · exact List.mem_cons_of_mem _ (ih (List.mem_cons_of_mem _ hl) hc)

lemma feed_notMem_of_mem_lines {s : List Char} (hl : line ∈ lines s) : '\n' ∉ line := by
  induction s using lines.induct generalizing line with
  | case1 => cases hl
  | case2 rest ih =>
    rw [lines] at hl
    rcases List.mem_cons.mp hl with rfl | hl
    · exact List.not_mem_nil
    · exact ih hl
  | case3 rest ih =>
    rw [lines] at hl
    rcases List.mem_cons.mp hl with rfl | hl
    · exact List.not_mem_nil
    · exact ih hl
  | case4 c rest hn hr hnone _ =>
    rw [lines_cons hn (head?_ne_feed hr), hnone, List.mem_singleton] at hl
    subst hl
    exact fun hmem => hn (List.mem_singleton.mp hmem).symm
  | case5 c rest hn hr first more hsome ih =>
    rw [lines_cons hn (head?_ne_feed hr), hsome] at hl
    rw [hsome] at ih
    rcases List.mem_cons.mp hl with rfl | hl
    · rw [List.mem_cons, not_or]
      exact ⟨Ne.symm hn, ih List.mem_cons_self⟩
    · exact ih (List.mem_cons_of_mem _ hl)

lemma isBlank_of_mem_lines {s : List Char} (hs : IsBlank s) (hl : line ∈ lines s) : IsBlank line :=
  fun _ hc => hs _ (mem_of_mem_lines hl hc)

end DeployForge.Text
