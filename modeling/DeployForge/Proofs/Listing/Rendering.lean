import DeployForge.Proofs.Listing.Start
import DeployForge.Proofs.Text.Lines
import DeployForge.Proofs.Text.Search

namespace DeployForge.Listing

open Text

variable {f : String} {line : Line}

/-- A name that does not make the line of its own body look like one to be skipped. -/
structure IsName (f : String) : Prop where
  ne_nil : f.toList ≠ []
  solid : ∀ c ∈ f.toList, isBlank c = false ∧ c ≠ '/'
  not_getter : ¬ methodDecl.toList <:+: f.toList

structure IsHelper (f : String) (line : Line) : Prop where
  not_blank : ¬ IsBlank line
  not_comment : ¬ "//".toList <+: trim line
  not_getter : ¬ methodDecl.toList <:+: line
  not_forward : ¬ forwardDecl f <:+: line
  not_opener : ¬ bodyOpen f <:+: line
  not_opening : opensProgram line = false
  not_closing : closesProgram line = false

instance : Decidable (IsHelper f line) :=
  decidable_of_iff
    (¬ IsBlank line ∧ ¬ "//".toList <+: trim line ∧ ¬ methodDecl.toList <:+: line ∧
      ¬ forwardDecl f <:+: line ∧ ¬ bodyOpen f <:+: line ∧ opensProgram line = false ∧
      closesProgram line = false)
    ⟨fun ⟨h₁, h₂, h₃, h₄, h₅, h₆, h₇⟩ => ⟨h₁, h₂, h₃, h₄, h₅, h₆, h₇⟩,
      fun ⟨h₁, h₂, h₃, h₄, h₅, h₆, h₇⟩ => ⟨h₁, h₂, h₃, h₄, h₅, h₆, h₇⟩⟩

lemma isSkipped_eq_false_iff :
    isSkipped f line = false ↔
      ¬ IsBlank line ∧ ¬ "//".toList <+: trim line ∧ ¬ methodDecl.toList <:+: trim line ∧
        ¬ forwardDecl f <:+: trim line := by
  rw [← Bool.not_eq_true, isSkipped]
  simp only [Bool.or_eq_true, not_or, List.isEmpty_iff, trim_eq_nil_iff,
    List.isPrefixOf_iff_prefix, occursIn_iff, and_assoc]

lemma IsHelper.isKept (h : IsHelper f line) : isKept f line = true := by
  rw [isKept_iff, isSkipped_eq_false_iff]
  refine ⟨h.not_opening, h.not_closing, h.not_blank, h.not_comment, ?_, ?_⟩
  · exact fun hi => h.not_getter (hi.trans (trim_isInfix line))
  · exact fun hi => h.not_forward (hi.trans (trim_isInfix line))

lemma IsHelper.after?_eq_none (h : IsHelper f line) : after? (bodyOpen f) line = none :=
  after?_eq_none_iff.mpr h.not_opener

section Opener

variable {g : String} {margin : List Char}

lemma bodyOpen_eq (f : String) : bodyOpen f = f.toList ++ '(' :: ") PROC:<\x7b".toList := by
  simp [bodyOpen, procOpen]

lemma IsName.exists_bodyOpen (h : IsName f) :
    ∃ c mid, bodyOpen f = c :: (mid ++ ['\x7b']) ∧ isBlank c = false ∧ c ≠ '/' := by
  obtain ⟨c, name, hf⟩ := List.exists_cons_of_ne_nil h.ne_nil
  obtain ⟨hc, hslash⟩ := h.solid c (by simp [hf])
  exact ⟨c, name ++ "() PROC:<".toList, by simp [bodyOpen_eq, hf], hc, hslash⟩

lemma IsName.trim_opener (h : IsName f) (hmargin : IsBlank margin) :
    trim (margin ++ bodyOpen f) = bodyOpen f := by
  obtain ⟨c, mid, hopen, hc, _⟩ := h.exists_bodyOpen
  have hbrace : isBlank '\x7b' = false := rfl
  have htrim := trim_between mid hmargin (List.forall_mem_nil _ : IsBlank []) hc hbrace
  rwa [List.append_nil, ← hopen] at htrim

lemma IsName.not_getter_opener (h : IsName f) : ¬ methodDecl.toList <:+: bodyOpen f := by
  rw [bodyOpen_eq, infix_append_cons_iff (by decide)]
  rintro (hi | hi)
  · exact h.not_getter hi
  · exact absurd hi (by decide +kernel)

/-- The blank of a forward declaration follows a letter, that of the opener a bracket. -/
lemma IsName.not_forward_opener (h : IsName g) : ¬ forwardDecl f <:+: bodyOpen g := by
  intro hi
  have hblank : "C ".toList <:+: bodyOpen g := by
    refine List.IsInfix.trans ⟨"DECLPRO".toList, f.toList, ?_⟩ hi
    simp [forwardDecl, procDecl]
  rw [bodyOpen_eq, infix_append_cons_iff (by decide)] at hblank
  rcases hblank with hi | hi
  · have hsolid := (h.solid ' ' (hi.subset (by decide))).1
    cases hsolid
  · exact absurd hi (by decide +kernel)

lemma IsName.isKept_opener (h : IsName g) (hmargin : IsBlank margin) :
    isKept f (margin ++ bodyOpen g) = true := by
  have hspace : ' ' ∈ bodyOpen g := by simp [bodyOpen_eq]
  have hbracket : '(' ∈ margin ++ bodyOpen g := by simp [bodyOpen_eq]
  have hmarker : ∀ marker : String, ' ' ∉ marker.toList → ¬ bodyOpen g = marker.toList :=
    fun marker hnone hmarker => hnone (hmarker ▸ hspace)
  rw [isKept_iff, isSkipped_eq_false_iff]
  simp only [opensProgram, closesProgram, h.trim_opener hmargin, decide_eq_false_iff_not]
  refine ⟨hmarker _ (by decide), hmarker _ (by decide), not_isBlank_of_mem hbracket rfl, ?_,
    h.not_getter_opener, h.not_forward_opener⟩
  obtain ⟨c, mid, hopen, _, hslash⟩ := h.exists_bodyOpen
  rw [hopen]
  exact fun hcomment => hslash (List.cons_prefix_cons.mp hcomment).1.symm

lemma IsName.after?_opener (h : IsName f) (hmargin : IsBlank margin) :
    after? (bodyOpen f) (margin ++ bodyOpen f) = some [] := by
  obtain ⟨c, mid, hopen, hc, _⟩ := h.exists_bodyOpen
  have hnone : c ∉ margin := by
    intro hmem
    rw [hmargin c hmem] at hc
    cases hc
  have hafter := after?_of_notMem (mid ++ ['\x7b']) [] hnone
  rwa [List.append_nil, ← hopen] at hafter

end Opener

/-- A listing put together around the body of `f`. What follows the line that closes the body is
anything at all, or nothing, not even the end of that line. -/
structure Rendering (f : String) where
  preamble : List Line
  opening : Line
  helpers : List Line
  margin : List Char
  body : List Line
  left : List Char
  right : List Char
  tail : Option (List Char)
  name : IsName f
  preamble_outside : ∀ l ∈ preamble, opensProgram l = false ∧ closesProgram l = false
  opens : opensProgram opening = true
  helper : ∀ l ∈ helpers, IsHelper f l
  margin_blank : IsBlank margin
  balanced : Balanced body.flatten
  left_blank : IsBlank left
  right_blank : IsBlank right
  isLine : ∀ l ∈ preamble ++ opening :: helpers ++ (margin ++ bodyOpen f) :: body ++
    [left ++ procClose.toList ++ right], IsLine l

namespace Rendering

variable (r : Rendering f)

def opener : Line := r.margin ++ bodyOpen f

def closer : Line := r.left ++ procClose.toList ++ r.right

def tailText : List Char :=
  match r.tail with
  | none => []
  | some tail => '\n' :: tail

def text : List Char :=
  unlines (r.preamble ++ r.opening :: r.helpers ++ r.opener :: r.body) ++ (r.closer ++ r.tailText)

def after : List Line :=
  match r.tail with
  | none => []
  | some tail => lines tail

lemma lines_closer : lines (r.closer ++ r.tailText) = r.closer :: r.after := by
  have hcloser : IsLine r.closer := r.isLine _ (by simp [closer])
  have hne : r.closer ≠ [] := by simp [closer, procClose]
  unfold tailText after
  split
  · rw [List.append_nil, lines_of_notMem hcloser.1 hne]
  · rw [lines_append hcloser]

lemma lines_text :
    lines r.text =
      r.preamble ++ r.opening :: (r.helpers ++ r.opener :: (r.body ++ r.closer :: r.after)) := by
  have hbefore : ∀ l ∈ r.preamble ++ r.opening :: r.helpers ++ r.opener :: r.body, IsLine l :=
    fun l hl => r.isLine l (List.mem_append_left _ hl)
  rw [text, lines_unlines_append hbefore, r.lines_closer]
  simp only [List.append_assoc, List.cons_append]

def start : Start f (lines r.text) where
  before := r.preamble
  opening := r.opening
  head := r.helpers
  line := r.opener
  first := []
  rest := r.body ++ r.closer :: r.after
  listing_eq := r.lines_text
  before_outside := r.preamble_outside
  opens := r.opens
  head_inside := fun l hl => (r.helper l hl).not_closing
  head_passed := fun l hl _ => (r.helper l hl).after?_eq_none
  line_kept := r.name.isKept_opener r.margin_blank
  line_opens := r.name.after?_opener r.margin_blank

lemma closes : Closes 1 (r.body ++ [r.closer]) := by
  apply r.balanced.staysOpen.closes_concat
  rw [r.balanced.depth_eq, closer, depthAfter_close r.left_blank r.right_blank]

lemma filter_helpers : r.helpers.filter (isKept f) = r.helpers :=
  List.filter_eq_self.mpr fun l hl => (r.helper l hl).isKept

lemma bodyText_eq : bodyText [] (r.body ++ [r.closer]) = trimEnd ('\n' :: unlines r.body) := by
  -- The line feed behind the last line is blank too, so the strip reaches the closing.
  have hright : IsBlank (r.right ++ ['\n']) :=
    r.right_blank.append (List.forall_mem_singleton.mpr rfl)
  have htext : unlines ([] :: (r.body ++ [r.closer])) =
      ('\n' :: unlines r.body ++ r.left) ++ procClose.toList ++ (r.right ++ ['\n']) := by
    simp [unlines_append, closer]
  rw [bodyText, htext, stripClose_append _ hright, trimEnd_append_blank _ r.left_blank]

lemma isBlank_indented_iff : IsBlank (indented r.helpers) ↔ r.helpers = [] := by
  rw [indented, isBlank_unlines_iff]
  constructor
  · intro h
    rw [List.eq_nil_iff_forall_not_mem]
    intro l hl
    have hindented := h _ (List.mem_map_of_mem hl)
    exact (r.helper l hl).not_blank (isBlank_append_iff.mp hindented).2
  · intro h
    simp [h]

lemma isBlank_bodyText_iff :
    IsBlank (bodyText [] (r.body ++ [r.closer])) ↔ ∀ l ∈ r.body, IsBlank l := by
  rw [bodyText_eq, isBlank_trimEnd_iff, ← isBlank_unlines_iff]
  exact ⟨fun h c hc => h c (by simp [hc]), fun h => List.forall_mem_cons.mpr ⟨rfl, h⟩⟩

/-- The helpers come back one by one, each indented once more, and the lines of the body without
the one that closes it. Only a rendering without either has nothing to give back. -/
theorem extract_text :
    extract (.ofList r.text) f =
      if r.helpers = [] ∧ ∀ l ∈ r.body, IsBlank l then
        .error (.extraction (Failure.empty f).message)
      else
        .ok {
          helpers := .ofList (unlines (r.helpers.map ("    ".toList ++ ·)))
          body := .ofList (trimEnd ('\n' :: unlines r.body)) } := by
  have hrest : r.start.rest = (r.body ++ [r.closer]) ++ r.after := by simp [start]
  have hhelpers : r.start.head.filter (isKept f) = r.helpers := r.filter_helpers
  have hbody : bodyText r.start.first (r.body ++ [r.closer]) =
      trimEnd ('\n' :: unlines r.body) := r.bodyText_eq
  have hempty : (allBlank (indented r.helpers) && allBlank (trimEnd ('\n' :: unlines r.body))) =
      true ↔ r.helpers = [] ∧ ∀ l ∈ r.body, IsBlank l := by
    rw [Bool.and_eq_true, allBlank_iff, allBlank_iff, r.isBlank_indented_iff, ← r.bodyText_eq,
      r.isBlank_bodyText_iff]
  rw [extract, String.toList_ofList, r.start.extractLines_of_closes hrest r.closes, Start.code,
    hhelpers, hbody]
  simp only [hempty]
  split <;> rfl

def nested : Rendering "f" where
  preamble := ["// generated".toList]
  opening := "PROGRAM\x7b".toList
  helpers := ["  a PROC:<\x7b".toList, "    INC".toList, "  \x7d>".toList]
  margin := "  ".toList
  body := ["    IF:<\x7b".toList, "      NOP".toList, "    \x7d>".toList]
  left := "  ".toList
  right := []
  tail := some "\x7dEND>c\n".toList
  name := ⟨by decide, List.forall_mem_singleton.mpr (by decide), by decide +kernel⟩
  preamble_outside := by decide +kernel
  opens := by decide +kernel
  helper := by decide +kernel
  margin_blank := by decide
  balanced := by decide +kernel
  left_blank := by decide
  right_blank := by decide
  isLine := by decide +kernel

theorem extract_text_nested :
    extract (.ofList nested.text) "f" =
      .ok {
        helpers := "      a PROC:<\x7b\n        INC\n      \x7d>\n"
        body := "\n    IF:<\x7b\n      NOP\n    \x7d>" } := by
  rw [nested.extract_text, if_neg (by simp [nested])]
  exact congrArg Except.ok (by decide +kernel)

end Rendering

end DeployForge.Listing
