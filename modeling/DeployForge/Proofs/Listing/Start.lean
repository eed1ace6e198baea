import DeployForge.Proofs.Listing.Closing

namespace DeployForge.Listing

open Text

/-- A line of a program that is a helper unless the body opens on it. -/
def isKept (f : String) (line : Line) : Bool :=
  !opensProgram line && !closesProgram line && !isSkipped f line

/-- Where the body of `f` starts: the lines `before` the program opens, those at its `head`, the
line on which the body opens with what is `first` behind it, and the `rest`. -/
structure Start (f : String) (listing : List Line) where
  before : List Line
  opening : Line
  head : List Line
  line : Line
  first : List Char
  rest : List Line
  listing_eq : listing = before ++ opening :: (head ++ line :: rest)
  before_outside : ∀ l ∈ before, opensProgram l = false ∧ closesProgram l = false
  opens : opensProgram opening = true
  head_inside : ∀ l ∈ head, closesProgram l = false
  head_passed : ∀ l ∈ head, isKept f l = true → after? (bodyOpen f) l = none
  line_kept : isKept f line = true
  line_opens : after? (bodyOpen f) line = some first

variable {f : String} {listing ls rest helpers : List Line} {line : Line} {first : List Char}

def Start.bare {opening : Line} (listing_eq : listing = opening :: line :: rest)
    (opens : opensProgram opening = true) (line_kept : isKept f line = true)
    (line_opens : after? (bodyOpen f) line = some first) : Start f listing where
  before := []
  opening := opening
  head := []
  line := line
  first := first
  rest := rest
  listing_eq := listing_eq
  before_outside := List.forall_mem_nil _
  opens := opens
  head_inside := List.forall_mem_nil _
  head_passed := List.forall_mem_nil _
  line_kept := line_kept
  line_opens := line_opens

def Start.second (opening line : Line) (first : List Char) (rest : List Line)
    (h : listing = opening :: line :: rest ∧ opensProgram opening = true ∧
      isKept f line = true ∧ after? (bodyOpen f) line = some first) : Start f listing :=
  .bare h.1 h.2.1 h.2.2.1 h.2.2.2

lemma opensProgram_eq_false (h : closesProgram line = true) : opensProgram line = false := by
  simp only [closesProgram, decide_eq_true_eq] at h
  simp only [opensProgram, h]
  decide

lemma program?_append {before : List Line} {opening : Line}
    (hbefore : ∀ l ∈ before, opensProgram l = false ∧ closesProgram l = false)
    (hopens : opensProgram opening = true) (rest : List Line) :
    program? (before ++ opening :: rest) = some rest := by
  induction before with
  | nil => rw [List.nil_append, program?, if_pos hopens]
  | cons line before ih =>
    obtain ⟨hopen, hclose⟩ := hbefore line (by simp)
    rw [List.cons_append, program?, if_neg (by simp [hopen]), if_neg (by simp [hclose])]
    exact ih fun l hl => hbefore l (by simp [hl])

lemma exists_of_program? (h : program? ls = some rest) :
    ∃ before opening, ls = before ++ opening :: rest ∧ opensProgram opening = true ∧
      ∀ l ∈ before, opensProgram l = false ∧ closesProgram l = false := by
  induction ls with
  | nil => cases h
  | cons line ls ih =>
    rw [program?] at h
    by_cases hopen : opensProgram line = true
    · rw [if_pos hopen] at h
      cases h
      exact ⟨[], line, rfl, hopen, by simp⟩
    · rw [if_neg hopen] at h
      by_cases hclose : closesProgram line = true
      · rw [if_pos hclose] at h
        cases h
      · rw [if_neg hclose] at h
        obtain ⟨before, opening, rfl, hopens, hbefore⟩ := ih h
        refine ⟨line :: before, opening, rfl, hopens, ?_⟩
        intro l hl
        rcases List.mem_cons.mp hl with rfl | hl
        · exact ⟨by simpa using hopen, by simpa using hclose⟩
        · exact hbefore l hl

lemma isKept_iff :
    isKept f line = true ↔
      opensProgram line = false ∧ closesProgram line = false ∧ isSkipped f line = false := by
  simp [isKept, and_assoc]

lemma split_line (hk : isKept f line = true) (ho : after? (bodyOpen f) line = some first) :
    split f (line :: rest) = ([], some (first, rest)) := by
  obtain ⟨hopen, hclose, hskip⟩ := isKept_iff.mp hk
  rw [split, if_neg (by simp [hopen]), if_neg (by simp [hclose]), if_neg (by simp [hskip]), ho]

lemma split_cons (hclose : closesProgram line = false)
    (hpassed : isKept f line = true → after? (bodyOpen f) line = none) :
    split f (line :: rest) =
      ((if isKept f line then [line] else []) ++ (split f rest).1, (split f rest).2) := by
  rw [split]
  by_cases hopen : opensProgram line = true
  · rw [if_pos hopen, if_neg (by simp [isKept, hopen])]
    rfl
  · rw [if_neg hopen, if_neg (by simp [hclose])]
    by_cases hskip : isSkipped f line = true
    · rw [if_pos hskip, if_neg (by simp [isKept, hskip])]
      rfl
    · have hk : isKept f line = true := by simp [isKept, hopen, hclose, hskip]
      rw [if_neg hskip, hpassed hk, if_pos hk]
      rfl

lemma split_append {head : List Line} (hinside : ∀ l ∈ head, closesProgram l = false)
    (hpassed : ∀ l ∈ head, isKept f l = true → after? (bodyOpen f) l = none) :
    split f (head ++ ls) = (head.filter (isKept f) ++ (split f ls).1, (split f ls).2) := by
  induction head with
  | nil => rfl
  | cons line head ih =>
    rw [List.cons_append, split_cons (hinside line (by simp)) (hpassed line (by simp)),
      ih (fun l hl => hinside l (by simp [hl])) fun l hl => hpassed l (by simp [hl])]
    by_cases hk : isKept f line = true <;> simp [hk]

lemma exists_of_split (h : split f ls = (helpers, some (first, rest))) :
    ∃ head line, ls = head ++ line :: rest ∧ helpers = head.filter (isKept f) ∧
      (∀ l ∈ head, closesProgram l = false) ∧
      (∀ l ∈ head, isKept f l = true → after? (bodyOpen f) l = none) ∧
      isKept f line = true ∧ after? (bodyOpen f) line = some first := by
  induction ls generalizing helpers with
  | nil => cases h
  | cons line ls ih =>
    by_cases hclose : closesProgram line = true
    · have hopen := opensProgram_eq_false hclose
      rw [split, if_neg (by simp [hopen]), if_pos hclose] at h
      cases h
    · rw [Bool.not_eq_true] at hclose
      -- The body opens on the first line that would be a helper and has the opener in it.
      by_cases hstart : isKept f line = true ∧ ∃ first, after? (bodyOpen f) line = some first
      · obtain ⟨hk, first', ho⟩ := hstart
        rw [split_line hk ho] at h
        cases h
        exact ⟨[], line, rfl, rfl, by simp, by simp, hk, ho⟩
      · have hpassed : isKept f line = true → after? (bodyOpen f) line = none := by
          intro hk
          by_contra hne
          exact hstart ⟨hk, Option.ne_none_iff_exists'.mp hne⟩
        rw [split_cons hclose hpassed] at h
        obtain ⟨hhelpers, hbody⟩ := Prod.mk.inj h
        have hls : split f ls = ((split f ls).1, some (first, rest)) := Prod.ext rfl hbody
        obtain ⟨head, opener, rfl, hfilter, hinside, hpass, hk, ho⟩ := ih hls
        refine ⟨line :: head, opener, rfl, ?_, ?_, ?_, hk, ho⟩
        · rw [← hhelpers, hfilter]
          by_cases hkept : isKept f line = true <;> simp [hkept]
        · exact List.forall_mem_cons.mpr ⟨hclose, hinside⟩
        · exact List.forall_mem_cons.mpr ⟨hpassed, hpass⟩

namespace Start

variable {body after : List Line} (s : Start f listing)

lemma program?_eq : program? listing = some (s.head ++ s.line :: s.rest) := by
  conv_lhs => rw [s.listing_eq]
  exact program?_append s.before_outside s.opens _

lemma split_eq :
    split f (s.head ++ s.line :: s.rest) =
      (s.head.filter (isKept f), some (s.first, s.rest)) := by
  rw [split_append s.head_inside s.head_passed, split_line s.line_kept s.line_opens,
    List.append_nil]

lemma first_rest_eq (s t : Start f listing) : s.first = t.first ∧ s.rest = t.rest := by
  have hinside : s.head ++ s.line :: s.rest = t.head ++ t.line :: t.rest :=
    Option.some.inj (s.program?_eq.symm.trans t.program?_eq)
  have hsplit := s.split_eq
  rw [hinside, t.split_eq] at hsplit
  obtain ⟨hfirst, hrest⟩ := Prod.mk.inj (Option.some.inj (Prod.mk.inj hsplit).2)
  exact ⟨hfirst.symm, hrest.symm⟩

def code (body : List Line) : Extracted :=
  ⟨.ofList (indented (s.head.filter (isKept f))), .ofList (bodyText s.first body)⟩

lemma extractLines_of_closes (hrest : s.rest = body ++ after) (hbody : Closes 1 body) :
    extractLines f listing =
      if allBlank (indented (s.head.filter (isKept f))) && allBlank (bodyText s.first body)
      then .error (.empty f) else .ok (s.code body) := by
  have hcapture : capture? 1 s.rest = some body := by
    rw [hrest]
    exact capture?_of_closes hbody after
  simp only [extractLines, s.program?_eq, s.split_eq, hcapture, code]

lemma extractLines_of_staysOpen (hrest : StaysOpen 1 s.rest) :
    extractLines f listing = .error (.notClosed f) := by
  simp only [extractLines, s.program?_eq, s.split_eq, capture?_eq_none_iff.mpr hrest]

end Start

lemma exists_start {code : Extracted} (h : extractLines f listing = .ok code) :
    ∃ (s : Start f listing) (body after : List Line),
      s.rest = body ++ after ∧ Closes 1 body ∧ code = s.code body := by
  simp only [extractLines] at h
  split at h
  · cases h
  · next program hprogram =>
    obtain ⟨before, opening, rfl, hopens, hbefore⟩ := exists_of_program? hprogram
    split at h
    · cases h
    · next helpers first rest hsplit =>
      obtain ⟨head, line, rfl, rfl, hinside, hpassed, hkept, hline⟩ := exists_of_split hsplit
      split at h
      · cases h
      · next body hcapture =>
        obtain ⟨hcloses, after, rfl⟩ := closes_of_capture? hcapture
        split at h
        · cases h
        · cases h
          exact ⟨⟨before, opening, head, line, first, _, rfl, hbefore, hopens, hinside, hpassed,
            hkept, hline⟩, body, after, rfl, hcloses, rfl⟩

end DeployForge.Listing
