import DeployForge.Proofs.Listing.Balance
import DeployForge.Proofs.Listing.Declarations

/-!
The procedures of a program, and the one that is taken out of it. Its opening is looked for as a
part of a line, so it is found in that of a longer name which ends in the name of the function.
-/

namespace DeployForge.Listing

open Text

variable {f g name : String} {listing : String} {line opener closer : Line} {first : List Char}

/-- A character of a name: not blank, and none of the punctuation of a listing. -/
def isNameChar (c : Char) : Bool := !isBlank c && c ∉ "()\x7b\x7d<>/".toList

structure IsIdentifier (name : String) : Prop where
  ne_nil : name.toList ≠ []
  chars : ∀ c ∈ name.toList, isNameChar c = true
  not_getter : ¬ methodDecl.toList <:+: name.toList

/-- The name before the opening of a body on this line, as far to the left as it goes. -/
def Opens (name : String) (line : Line) (first : List Char) : Prop :=
  ∃ before, line = before ++ "() PROC:<\x7b".toList ++ first ∧
    before.rtakeWhile isNameChar = name.toList

section Names

lemma isNameChar_of_isBlank {c : Char} (hc : isBlank c = true) : isNameChar c = false := by
  simp [isNameChar, hc]

lemma IsIdentifier.isName (h : IsIdentifier f) : IsName f := by
  refine ⟨h.ne_nil, fun c hc => ?_, h.not_getter⟩
  have hchar := h.chars c hc
  rw [isNameChar, Bool.and_eq_true, Bool.not_eq_true', decide_eq_true_eq] at hchar
  exact ⟨hchar.1, fun hslash => hchar.2 (by simp [hslash])⟩

lemma IsIdentifier.bracket_notMem (h : IsIdentifier f) : '(' ∉ f.toList := fun hmem =>
  absurd (h.chars '(' hmem) (by decide)

lemma rtakeWhile_append_chars {t : List Char} (s : List Char)
    (ht : ∀ c ∈ t, isNameChar c = true) :
    (s ++ t).rtakeWhile isNameChar = s.rtakeWhile isNameChar ++ t := by
  rw [List.rtakeWhile, List.rtakeWhile, List.reverse_append,
    List.takeWhile_append_of_pos fun c hc => ht c (List.mem_reverse.mp hc), List.reverse_append,
    List.reverse_reverse]

lemma rtakeWhile_blank {s : List Char} (hs : IsBlank s) : s.rtakeWhile isNameChar = [] := by
  rw [List.rtakeWhile_eq_nil_iff]
  intro hne
  rw [isNameChar_of_isBlank (hs _ (List.getLast_mem hne))]
  exact Bool.false_ne_true

lemma IsIdentifier.exists_opens (hf : IsIdentifier f) (h : after? (bodyOpen f) line = some first) :
    ∃ name, Opens name line first ∧ f.toList <:+ name.toList := by
  obtain ⟨before, rfl⟩ := exists_of_after? h
  refine ⟨.ofList ((before ++ f.toList).rtakeWhile isNameChar), ⟨before ++ f.toList, ?_, ?_⟩, ?_⟩
  · simp [bodyOpen_eq]
  · exact String.toList_ofList.symm
  · rw [String.toList_ofList, rtakeWhile_append_chars _ hf.chars]
    exact List.suffix_append ..

end Names

section Alone

lemma isKept_eq_of_trim_eq {line' : Line} (h : trim line = trim line') :
    isKept f line = isKept f line' := by
  simp only [isKept, opensProgram, closesProgram, isSkipped, h]

lemma IsName.trim_of_alone (h : IsName g) (hline : Alone (bodyOpen g) line) :
    trim line = bodyOpen g := by
  obtain ⟨c, mid, hopen, hc, _⟩ := h.exists_bodyOpen
  rw [hopen] at hline ⊢
  exact hline.trim_eq hc rfl

lemma IsName.isKept_of_alone (h : IsName g) (hline : Alone (bodyOpen g) line) :
    isKept f line = true := by
  have hnil : IsBlank [] := List.forall_mem_nil _
  rw [isKept_eq_of_trim_eq ((h.trim_of_alone hline).trans (h.trim_opener hnil).symm)]
  exact h.isKept_opener hnil

lemma isKept_close (hline : Alone procClose.toList line) : isKept f line = true := by
  have hclose : Alone ('\x7d' :: ([] ++ ['>'])) line := hline
  have htrim : trim line = procClose.toList := hclose.trim_eq rfl rfl
  have hspace : ' ' ∈ forwardDecl f := by simp [forwardDecl_eq]
  have hblank : ¬ IsBlank line := by
    rw [← trim_eq_nil_iff, htrim]
    decide
  rw [isKept_iff, isSkipped_eq_false_iff]
  simp only [opensProgram, closesProgram, htrim, decide_eq_false_iff_not]
  exact ⟨by decide, by decide, hblank, by decide, by decide +kernel,
    fun hi => absurd (hi.subset hspace) (by decide)⟩

lemma IsIdentifier.eq_of_opens (hg : IsIdentifier g) (hline : Alone (bodyOpen g) line)
    (h : Opens name line first) : name = g := by
  obtain ⟨left, right, rfl, hleft, hright⟩ := hline
  obtain ⟨before, heq, hname⟩ := h
  have hbracket : '(' ∉ left ++ g.toList := by
    rw [List.mem_append, not_or]
    refine ⟨fun hmem => ?_, hg.bracket_notMem⟩
    have hblank := hleft '(' hmem
    cases hblank
  have hbehind : '(' ∉ ") PROC:<\x7b".toList ++ right := by
    rw [List.mem_append, not_or]
    refine ⟨by decide, fun hmem => ?_⟩
    have hblank := hright '(' hmem
    cases hblank
  have heq' : (left ++ g.toList) ++ '(' :: (") PROC:<\x7b".toList ++ right) =
      before ++ '(' :: (") PROC:<\x7b".toList ++ first) := by
    simpa [bodyOpen_eq] using heq
  obtain ⟨hbefore, _, _⟩ := (List.append_cons_inj_of_notMem hbracket hbehind).mp heq'
  rw [← hbefore, rtakeWhile_append_chars _ hg.chars, rtakeWhile_blank hleft, List.nil_append]
    at hname
  exact String.toList_inj.mp hname.symm

lemma after?_ne_none_of_suffix (hsuffix : f.toList <:+ g.toList)
    (hline : Alone (bodyOpen g) line) : after? (bodyOpen f) line ≠ none := by
  rw [ne_eq, after?_eq_none_iff, not_not]
  obtain ⟨left, right, rfl, _, _⟩ := hline
  obtain ⟨start, hstart⟩ := hsuffix
  exact ⟨left ++ start, right, by simp [bodyOpen_eq, ← hstart]⟩

end Alone

section Missing

lemma split_snd_eq_none_iff {ls : List Line} :
    (split f ls).2 = none ↔
      ∀ line ∈ ls.takeWhile (!closesProgram ·), isKept f line = true →
        after? (bodyOpen f) line = none := by
  induction ls with
  | nil => simp [split]
  | cons line ls ih =>
    by_cases hclose : closesProgram line = true
    · rw [split, if_neg (by simp [opensProgram_eq_false hclose]), if_pos hclose,
        List.takeWhile_cons_of_neg (by simp [hclose])]
      exact iff_of_true rfl (List.forall_mem_nil _)
    · rw [List.takeWhile_cons_of_pos (by simp [hclose]), List.forall_mem_cons]
      rw [Bool.not_eq_true] at hclose
      by_cases hpassed : isKept f line = true → after? (bodyOpen f) line = none
      · rw [split_cons hclose hpassed, ih, and_iff_right hpassed]
      · obtain ⟨hkept, hopen⟩ := Classical.not_imp.mp hpassed
        obtain ⟨first, hfirst⟩ := Option.ne_none_iff_exists'.mp hopen
        rw [split_line hkept hfirst]
        exact iff_of_false (Option.some_ne_none _) fun h => hpassed h.1

lemma head?_append_of_eq_some {s : String} {c : Char} (hs : s.toList.head? = some c)
    (t : String) : (s ++ t).toList.head? = some c := by
  rw [String.toList_append, List.head?_append, hs]
  rfl

/-- The letter with which the message of a failure begins. It tells the failures apart. -/
def Failure.letter : Failure → Char
  | noProgram => 'l'
  | notFound _ => '\''
  | notClosed _ => 'b'
  | empty _ => 'n'

lemma Failure.head?_message (e : Failure) : e.message.toList.head? = some e.letter := by
  cases e with
  | noProgram =>
    have hfirst : "listing has no '".toList.head? = some 'l' := by decide
    exact head?_append_of_eq_some (head?_append_of_eq_some hfirst _) _
  | notFound =>
    have hfirst : "'".toList.head? = some '\'' := by decide
    exact head?_append_of_eq_some (head?_append_of_eq_some hfirst _) _
  | notClosed =>
    have hfirst : "body of ".toList.head? = some 'b' := by decide
    exact head?_append_of_eq_some (head?_append_of_eq_some hfirst _) _
  | empty =>
    have hfirst : "no code extracted for ".toList.head? = some 'n' := by decide
    exact head?_append_of_eq_some hfirst _

lemma exists_notFound {e : Failure} (h : e.message = (Failure.notFound f).message) :
    ∃ g, e = .notFound g := by
  have hletter : some e.letter = some (Failure.notFound f).letter := by
    rw [← Failure.head?_message, ← Failure.head?_message, h]
  cases e with
  | notFound g => exact ⟨g, rfl⟩
  | noProgram => simp [Failure.letter] at hletter
  | notClosed => simp [Failure.letter] at hletter
  | empty => simp [Failure.letter] at hletter

lemma extractLines_ne_notFound {ls program helpers rest : List Line}
    (hprogram : program? ls = some program)
    (hsplit : split f program = (helpers, some (first, rest))) :
    extractLines f ls ≠ .error (.notFound g) := by
  simp only [extractLines, hprogram, hsplit]
  split
  · simp
  · split <;> simp

lemma extract_eq_notFound_iff (hprogram : (program? (lines listing.toList)).isSome) :
    extract listing f = .error (.extraction (Failure.notFound f).message) ↔
      ∀ line ∈ window (lines listing.toList), isKept f line = true →
        after? (bodyOpen f) line = none := by
  obtain ⟨program, hprogram⟩ := Option.isSome_iff_exists.mp hprogram
  obtain ⟨before, opening, hlines, hopens, hbefore⟩ := exists_of_program? hprogram
  rw [hlines, window_append hbefore hopens, ← split_snd_eq_none_iff]
  rcases hsplit : split f program with ⟨helpers, _ | ⟨first, rest⟩⟩
  · refine iff_of_true (extract_of_error ?_) rfl
    simp only [extractLines, hprogram, hsplit]
  · refine iff_of_false (fun herror => ?_) (Option.some_ne_none _)
    obtain ⟨e, hextract, hmessage⟩ := mapError_eq_error.mp herror
    obtain ⟨g, rfl⟩ := exists_notFound (Error.extraction.inj hmessage)
    exact extractLines_ne_notFound hprogram hsplit hextract

end Missing

/-- What is taken out of the program is the body of `f` itself, with the procedures before it among
the helpers, each from its first line to its last but for the lines that are left out everywhere.
Without a body of `f` there is the error that says so. -/
structure FindsOwn (f listing : String) : Prop where
  own : ∀ code, extract listing f = .ok code →
    ∃ (s : Start f (lines listing.toList)) (body after : List Line),
      s.rest = body ++ after ∧ Closes 1 body ∧ code = s.code body ∧ Opens f s.line s.first
  whole : ∀ code, extract listing f = .ok code →
    ∀ (s : Start f (lines listing.toList)) (early body late : List Line) (opener closer : Line)
      (g : String), s.head = early ++ opener :: body ++ closer :: late →
        IsIdentifier g → g ≠ f → Alone (bodyOpen g) opener → Balanced body.flatten →
          Alone procClose.toList closer →
            code.helpers.toList = indented (early.filter (isKept f) ++
              opener :: body.filter (isKept f) ++ closer :: late.filter (isKept f))
  missing : (program? (lines listing.toList)).isSome →
    (∀ line ∈ window (lines listing.toList), isKept f line = true →
      ∀ first, ¬ Opens f line first) →
    extract listing f = .error (.extraction (Failure.notFound f).message)

/-- No body opens in the program but those of `f` and of `names`. -/
def DefinesOnly (names : Set String) (f listing : String) : Prop :=
  ∀ line ∈ window (lines listing.toList), isKept f line = true →
    ∀ name first, Opens name line first → name = f ∨ name ∈ names

section Own

variable {names : Set String} {early body late : List Line}

lemma Start.mem_window {ls : List Line} (s : Start f ls) : s.line ∈ window ls := by
  rw [s.window_eq]
  simp

lemma Start.helpers_whole {ls : List Line} {code : Extracted} (s : Start f ls)
    (h : extractLines f ls = .ok code) (hhead : s.head = early ++ opener :: body ++ closer :: late)
    (hg : IsName g) (hopener : Alone (bodyOpen g) opener)
    (hcloser : Alone procClose.toList closer) :
    code.helpers.toList = indented (early.filter (isKept f) ++
      opener :: body.filter (isKept f) ++ closer :: late.filter (isKept f)) := by
  rw [s.helpers_eq h, hhead, List.filter_append, List.filter_append,
    List.filter_cons_of_pos (hg.isKept_of_alone hopener),
    List.filter_cons_of_pos (isKept_close hcloser)]

lemma DefinesOnly.opens (honly : DefinesOnly names f listing) (hf : IsIdentifier f)
    (hsuffix : ∀ g ∈ names, f.toList <:+ g.toList → g = f)
    (hline : line ∈ window (lines listing.toList)) (hkept : isKept f line = true)
    (hopen : after? (bodyOpen f) line = some first) : Opens f line first := by
  obtain ⟨name, hopens, hends⟩ := hf.exists_opens hopen
  rcases honly line hline hkept name first hopens with rfl | hname
  · exact hopens
  · rwa [← hsuffix name hname hends]

lemma DefinesOnly.findsOwn (honly : DefinesOnly names f listing) (hf : IsIdentifier f)
    (hsuffix : ∀ g ∈ names, f.toList <:+ g.toList → g = f) : FindsOwn f listing where
  own code hcode := by
    obtain ⟨s, body, after, hrest, hbody, hcode⟩ := exists_start (extract_eq_ok.mp hcode)
    exact ⟨s, body, after, hrest, hbody, hcode,
      honly.opens hf hsuffix s.mem_window s.line_kept s.line_opens⟩
  whole code hcode s early body late opener closer g hhead hg _ hopener _ hcloser :=
    s.helpers_whole (extract_eq_ok.mp hcode) hhead hg.isName hopener hcloser
  missing hprogram hnone := by
    rw [extract_eq_notFound_iff hprogram]
    intro line hline hkept
    by_contra hopen
    obtain ⟨first, hfirst⟩ := Option.ne_none_iff_exists'.mp hopen
    exact hnone line hline hkept first (honly.opens hf hsuffix hline hkept hfirst)

end Own

section Lone

def lone (g : String) : String :=
  .ofList (unlines ["PROGRAM\x7b".toList, "  ".toList ++ bodyOpen g])

lemma alone_opener (g : String) : Alone (bodyOpen g) ("  ".toList ++ bodyOpen g) :=
  ⟨"  ".toList, [], (List.append_nil _).symm, by decide, List.forall_mem_nil _⟩

lemma IsIdentifier.isLine_opener (hg : IsIdentifier g) : IsLine ("  ".toList ++ bodyOpen g) := by
  constructor
  · rw [bodyOpen_eq]
    simp only [List.mem_append, not_or]
    refine ⟨by decide, fun hmem => ?_, by decide⟩
    exact absurd (hg.chars '\n' hmem) (by decide)
  · obtain ⟨c, mid, hopen, _, _⟩ := hg.isName.exists_bodyOpen
    rw [hopen, ← List.cons_append, ← List.append_assoc, List.getLast?_concat]
    decide

lemma IsIdentifier.lines_lone (hg : IsIdentifier g) :
    lines (lone g).toList = ["PROGRAM\x7b".toList, "  ".toList ++ bodyOpen g] := by
  have hlines : ∀ l ∈ ["PROGRAM\x7b".toList, "  ".toList ++ bodyOpen g], IsLine l :=
    List.forall_mem_cons.mpr ⟨by decide, List.forall_mem_singleton.mpr hg.isLine_opener⟩
  rw [lone, String.toList_ofList, ← List.append_nil (unlines _), lines_unlines_append hlines]
  rfl

lemma IsIdentifier.window_lone (hg : IsIdentifier g) :
    window (lines (lone g).toList) = ["  ".toList ++ bodyOpen g] := by
  have hkept : isKept g ("  ".toList ++ bodyOpen g) = true :=
    hg.isName.isKept_of_alone (alone_opener g)
  rw [hg.lines_lone, ← List.nil_append (_ :: _), window_append (List.forall_mem_nil _)
    opensProgram_plain, List.takeWhile_cons, (isKept_iff.mp hkept).2.1]
  rfl

lemma IsIdentifier.not_findsOwn_lone (hg : IsIdentifier g) (hsuffix : f.toList <:+ g.toList)
    (hne : g ≠ f) : ¬ FindsOwn f (lone g) := by
  intro h
  have hprogram : (program? (lines (lone g).toList)).isSome := by
    rw [hg.lines_lone, program?, if_pos opensProgram_plain]
    rfl
  have hmissing := h.missing hprogram (by
    rw [hg.window_lone, List.forall_mem_singleton]
    exact fun _ first hopens => hne (hg.eq_of_opens (alone_opener g) hopens).symm)
  rw [extract_eq_notFound_iff hprogram, hg.window_lone, List.forall_mem_singleton] at hmissing
  exact after?_ne_none_of_suffix hsuffix (alone_opener g)
    (hmissing (hg.isName.isKept_of_alone (alone_opener g)))

lemma IsIdentifier.definesOnly_lone (hg : IsIdentifier g) {names : Set String}
    (hmem : g ∈ names) : DefinesOnly names f (lone g) := by
  rw [DefinesOnly, hg.window_lone, List.forall_mem_singleton]
  intro _ name first hopens
  rw [hg.eq_of_opens (alone_opener g) hopens]
  exact Or.inr hmem

end Lone

/-- The body that is taken out of a program is that of the function exactly as long as the name of
no other procedure ends in its name. -/
theorem findsOwn_iff {names : Set String} (hf : IsIdentifier f)
    (hnames : ∀ g ∈ names, IsIdentifier g) :
    (∀ listing, DefinesOnly names f listing → FindsOwn f listing) ↔
      ∀ g ∈ names, f.toList <:+ g.toList → g = f := by
  constructor
  · intro h g hmem hsuffix
    by_contra hne
    have hg := hnames g hmem
    exact hg.not_findsOwn_lone hsuffix hne (h (lone g) (hg.definesOnly_lone hmem))
  · intro h listing honly
    exact honly.findsOwn hf h

lemma isIdentifier_helper : IsIdentifier "helper" :=
  ⟨by decide, List.all_eq_true.mp (by decide +kernel), by decide +kernel⟩

lemma isIdentifier_f : IsIdentifier "f" :=
  ⟨by decide, List.all_eq_true.mp (by decide +kernel), by decide +kernel⟩

theorem findsOwn_iff_helper :
    IsIdentifier "f" ∧ (∀ g ∈ ({"helper"} : Set String), IsIdentifier g) ∧
      ∀ listing, DefinesOnly {"helper"} "f" listing → FindsOwn "f" listing := by
  have hnames : ∀ g ∈ ({"helper"} : Set String), IsIdentifier g := by
    rintro g rfl
    exact isIdentifier_helper
  refine ⟨isIdentifier_f, hnames, (findsOwn_iff isIdentifier_f hnames).mpr ?_⟩
  rintro g rfl hsuffix
  exact absurd hsuffix (by decide)

def clashing : String :=
  "PROGRAM\x7b\n  g_f() PROC:<\x7b\n    NOP\n  \x7d>\n  f() PROC:<\x7b\n    INC\n  \x7d>\n\x7dEND>c\n"

def clashingStart : Start "f" (lines clashing.toList) :=
  .second "PROGRAM\x7b".toList "  g_f() PROC:<\x7b".toList []
    ["    NOP".toList, "  \x7d>".toList, "  f() PROC:<\x7b".toList, "    INC".toList,
      "  \x7d>".toList, "\x7dEND>c".toList] (by decide +kernel)

lemma isIdentifier_clashing : IsIdentifier "g_f" :=
  ⟨by decide, List.all_eq_true.mp (by decide +kernel), by decide +kernel⟩

lemma extract_clashing : extract clashing "f" = .ok { helpers := "", body := "\n    NOP" } :=
  extract_eq_ok.mpr (by decide +kernel)

theorem not_findsOwn_clashing : ¬ FindsOwn "f" clashing := by
  intro h
  obtain ⟨s, _, _, _, _, _, hopens⟩ := h.own _ extract_clashing
  rw [s.line_unique clashingStart] at hopens
  have halone : Alone (bodyOpen "g_f") "  g_f() PROC:<\x7b".toList :=
    ⟨"  ".toList, [], by decide, by decide, by decide⟩
  exact absurd (isIdentifier_clashing.eq_of_opens halone hopens) (by decide)

end DeployForge.Listing
