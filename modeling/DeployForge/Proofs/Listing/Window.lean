import DeployForge.Proofs.Listing.Start
import DeployForge.Proofs.Outcome
import DeployForge.Proofs.Text.Lines

/-!
The window of a program, and what an extraction takes from it. The search for the end of a body
looks at braces only, so a body that is open at the end of the window may close behind it.
-/

namespace DeployForge.Listing

open Text

/-- The lines between the one that opens the program and the next one that closes it. -/
def window (listing : List Line) : List Line :=
  ((listing.dropWhile (!opensProgram ·)).tail).takeWhile (!closesProgram ·)

/-- What is extracted is taken from the window, and a body that is open at the end of the window
is reported as one that is not closed. -/
structure Confined (f listing : String) : Prop where
  copied : ∀ code, extract listing f = .ok code →
    ∃ (s : Start f (lines listing.toList)) (body after : List Line),
      s.rest = body ++ after ∧ Closes 1 body ∧ code = s.code body ∧
        s.head ++ s.line :: body <+: window (lines listing.toList)
  unclosed : ∀ (s : Start f (lines listing.toList)) (body : List Line),
    window (lines listing.toList) = s.head ++ s.line :: body → StaysOpen 1 body →
      extract listing f = .error (.extraction (Failure.notClosed f).message)

lemma window_append {before rest : List Line} {opening : Line}
    (hbefore : ∀ l ∈ before, opensProgram l = false ∧ closesProgram l = false)
    (hopens : opensProgram opening = true) :
    window (before ++ opening :: rest) = rest.takeWhile (!closesProgram ·) := by
  rw [window, List.dropWhile_append_of_pos fun l hl => by simp [(hbefore l hl).1],
    List.dropWhile_cons_of_neg (by simp [hopens]), List.tail_cons]

namespace Start

variable {f : String} {listing : List Line} {body after : List Line} (s : Start f listing)

def inside : List Line := s.rest.takeWhile (!closesProgram ·)

/-- The body is open at the end of the window, and closes behind it. -/
def ClosesOutside : Prop :=
  StaysOpen 1 s.inside ∧ ∃ body after, s.rest = body ++ after ∧ Closes 1 body

lemma window_eq : window listing = s.head ++ s.line :: s.inside := by
  have hline : closesProgram s.line = false := (isKept_iff.mp s.line_kept).2.1
  conv_lhs => rw [s.listing_eq]
  rw [window_append s.before_outside s.opens,
    List.takeWhile_append_of_pos fun l hl => by simp [s.head_inside l hl],
    List.takeWhile_cons_of_pos (by simp [hline]), inside]

lemma inside_of_window_eq (h : window listing = s.head ++ s.line :: body) : body = s.inside := by
  rw [s.window_eq] at h
  exact (List.cons.inj (List.append_cancel_left h)).2.symm

lemma prefix_of_not_closesOutside (h : ¬ s.ClosesOutside) (hrest : s.rest = body ++ after)
    (hbody : Closes 1 body) : body <+: s.inside := by
  have hinside : ¬ StaysOpen 1 s.inside := fun hopen => h ⟨hopen, body, after, hrest, hbody⟩
  rw [← capture?_eq_none_iff, ← ne_eq, Option.ne_none_iff_exists'] at hinside
  obtain ⟨body', hbody'⟩ := hinside
  obtain ⟨hcloses, ms, hms⟩ := closes_of_capture? hbody'
  have hrest' : s.rest = body' ++ (ms ++ s.rest.dropWhile (!closesProgram ·)) := by
    rw [← List.append_assoc, ← hms]
    exact (List.takeWhile_append_dropWhile ..).symm
  -- Both are the lines up to the first behind which the depth is zero.
  have hcapture := capture?_of_closes hbody after
  rw [← hrest, hrest', capture?_of_closes hcloses, Option.some_inj] at hcapture
  exact ⟨ms, by rw [← hcapture, hms]⟩

lemma exists_closesProgram (hopen : StaysOpen 1 s.inside) (hrest : s.rest = body ++ after)
    (hbody : Closes 1 body) : ∃ l ∈ body, closesProgram l = true := by
  by_contra hnone
  simp only [not_exists, not_and, Bool.not_eq_true] at hnone
  have hinside : s.inside = body ++ after.takeWhile (!closesProgram ·) := by
    rw [inside, hrest, List.takeWhile_append_of_pos fun l hl => by simp [hnone l hl]]
  rw [hinside, staysOpen_append_iff] at hopen
  exact hopen.1.not_closes hbody

lemma not_isBlank_bodyText (hclosing : ∃ l ∈ body, closesProgram l = true) :
    ¬ IsBlank (bodyText s.first body) := by
  obtain ⟨l, hl, hclose⟩ := hclosing
  have hE : 'E' ∈ l := by
    rw [closesProgram, decide_eq_true_eq] at hclose
    have htrim := trim_isInfix l
    rw [hclose] at htrim
    exact htrim.subset (by decide)
  intro hblank
  obtain ⟨t, hbody, ht⟩ := exists_stripClose_append (unlines (s.first :: body))
  have hmem : 'E' ∈ unlines (s.first :: body) := mem_unlines hE (by simp [hl])
  rw [hbody, List.mem_append] at hmem
  rcases hmem with hmem | hmem
  · exact absurd (hblank _ hmem) (by decide)
  · exact absurd (ht _ hmem) (by decide)

lemma extractLines_of_closesOutside (h : s.ClosesOutside) :
    ∃ body, extractLines f listing = .ok (s.code body) ∧ ∃ l ∈ body, closesProgram l = true := by
  obtain ⟨hopen, body, after, hrest, hbody⟩ := h
  have hclosing := s.exists_closesProgram hopen hrest hbody
  have hblank : allBlank (bodyText s.first body) = false := by
    rw [← Bool.not_eq_true, allBlank_iff]
    exact s.not_isBlank_bodyText hclosing
  refine ⟨body, ?_, hclosing⟩
  rw [s.extractLines_of_closes hrest hbody, hblank, Bool.and_false, if_neg (by simp)]

lemma staysOpen_of_not_closesOutside (h : ¬ s.ClosesOutside) (hopen : StaysOpen 1 s.inside) :
    StaysOpen 1 s.rest := by
  rw [← capture?_eq_none_iff, Option.eq_none_iff_forall_not_mem]
  intro body hbody
  obtain ⟨hcloses, after, hrest⟩ := closes_of_capture? hbody
  exact h ⟨hopen, body, after, hrest, hcloses⟩

end Start

section

variable {f listing : String}

lemma extract_eq_ok {code : Extracted} :
    extract listing f = .ok code ↔ extractLines f (lines listing.toList) = .ok code :=
  mapError_eq_ok

lemma extract_of_error {e : Failure} (h : extractLines f (lines listing.toList) = .error e) :
    extract listing f = .error (.extraction e.message) := by
  rw [extract, h]
  rfl

lemma not_confined_of_closesOutside (s : Start f (lines listing.toList)) (h : s.ClosesOutside) :
    ¬ Confined f listing := by
  intro hconfined
  obtain ⟨body, hcode, _⟩ := s.extractLines_of_closesOutside h
  have herror := hconfined.unclosed s s.inside s.window_eq h.1
  rw [extract_eq_ok.mpr hcode] at herror
  cases herror

end

/-- An extraction is confined to the window unless the body is open at the end of the window and
closes behind it. -/
theorem confined_iff (f listing : String) :
    Confined f listing ↔ ∀ s : Start f (lines listing.toList), ¬ s.ClosesOutside := by
  constructor
  · intro h s hs
    exact not_confined_of_closesOutside s hs h
  · intro h
    constructor
    · intro code hcode
      obtain ⟨s, body, after, hrest, hbody, rfl⟩ := exists_start (extract_eq_ok.mp hcode)
      refine ⟨s, body, after, hrest, hbody, rfl, ?_⟩
      have hstarts : body <+: s.inside := s.prefix_of_not_closesOutside (h s) hrest hbody
      rw [s.window_eq, List.prefix_append_right_inj, List.cons_prefix_cons]
      exact ⟨rfl, hstarts⟩
    · intro s body hwindow hopen
      rw [s.inside_of_window_eq hwindow] at hopen
      have hrest := s.staysOpen_of_not_closesOutside (h s) hopen
      exact extract_of_error (s.extractLines_of_staysOpen hrest)

def unclosed : String := "PROGRAM\x7b\n  f() PROC:<\x7b\n    NOP\n\x7dEND>c\n"

lemma opensProgram_plain : opensProgram "PROGRAM\x7b".toList = true := by decide +kernel

def unclosedStart : Start "f" (lines unclosed.toList) :=
  .second "PROGRAM\x7b".toList "  f() PROC:<\x7b".toList []
    ["    NOP".toList, "\x7dEND>c".toList] (by decide +kernel)

theorem not_confined_unclosed : ¬ Confined "f" unclosed := by
  refine not_confined_of_closesOutside unclosedStart ⟨?_, unclosedStart.rest, [], rfl, ?_⟩
  · exact .cons (by decide) .nil
  · exact .more (by decide) (.last (by decide))

end DeployForge.Listing
