import DeployForge.Proofs.Listing.Rendering
import DeployForge.Proofs.Listing.Window
import Mathlib.Logic.Relation

/-!
Edits of a listing that an extraction does not see: lines before the program, lines in it that are
left out everywhere, and all that follows the line on which the body closes.
-/

namespace DeployForge.Listing

open Text

variable {f : String} {line : Line} {ls ms before early head late program : List Line}

section Idle

/-- A line that is passed over wherever it stands before a body. -/
def IsIdle (line : Line) : Prop :=
  IsBlank line ∨ "//".toList <+: trim line ∨ methodDecl.toList <:+: line ∨
    opensProgram line = true

lemma methodDecl_infix_trim_iff :
    methodDecl.toList <:+: trim line ↔ methodDecl.toList <:+: line := by
  have hsolid : methodDecl.toList.all (!isBlank ·) = true := by decide
  exact infix_trim_iff (by decide) (by simpa only [List.all_eq_true, Bool.not_eq_true'] using hsolid)

lemma IsIdle.closesProgram (h : IsIdle line) : closesProgram line = false := by
  rw [← Bool.not_eq_true]
  intro hclose
  have htrim : trim line = programClose.toList := of_decide_eq_true hclose
  rcases h with hblank | hcomment | hgetter | hopen
  · rw [← trim_eq_nil_iff, htrim] at hblank
    exact absurd hblank (by decide)
  · rw [htrim] at hcomment
    exact absurd hcomment (by decide)
  · rw [← methodDecl_infix_trim_iff, htrim] at hgetter
    exact absurd hgetter (by decide +kernel)
  · rw [opensProgram_eq_false hclose] at hopen
    cases hopen

lemma IsIdle.isKept (h : IsIdle line) : isKept f line = false := by
  rw [← Bool.not_eq_true, isKept_iff, isSkipped_eq_false_iff, methodDecl_infix_trim_iff]
  rintro ⟨hopens, _, hblank, hcomment, hgetter, _⟩
  rcases h with h | h | h | h
  · exact hblank h
  · exact hcomment h
  · exact hgetter h
  · rw [hopens] at h
    cases h

end Idle

section Edit

def OpensBody (f : String) (line : Line) : Prop := isKept f line = true ∧ bodyOpen f <:+: line

def EndsBody (f : String) (ls : List Line) : Prop := ∃ s : Start f ls, Closes 1 s.rest

/-- A line is put in before the program opens, or an idle one between its first line and the body
of `f`, or something else stands behind the body. -/
inductive Edit (f : String) : List Line → List Line → Prop
  | before {early late : List Line} {line : Line} :
      (∀ l ∈ early, opensProgram l = false) →
      opensProgram line = false → closesProgram line = false →
      Edit f (early ++ late) (early ++ line :: late)
  | inside {before head late : List Line} {opening line : Line} :
      (∀ l ∈ before, opensProgram l = false) → opensProgram opening = true →
      (∀ l ∈ head, closesProgram l = false ∧ ¬ OpensBody f l) → IsIdle line →
      Edit f (before ++ opening :: (head ++ late)) (before ++ opening :: (head ++ line :: late))
  | behind {upto late late' : List Line} : EndsBody f upto → Edit f (upto ++ late) (upto ++ late')

lemma program?_append_of_unopened (h : ∀ l ∈ early, opensProgram l = false) (ls : List Line) :
    program? (early ++ ls) = if early.any closesProgram then none else program? ls := by
  induction early with
  | nil => rfl
  | cons line early ih =>
    rw [List.forall_mem_cons] at h
    rw [List.cons_append, program?, if_neg (by simp [h.1]), List.any_cons]
    cases hclose : closesProgram line with
    | true => rfl
    | false => exact ih h.2

lemma extractLines_congr_program (h : program? ls = program? ms) :
    extractLines f ls = extractLines f ms := by
  simp only [extractLines, h]

lemma extractLines_congr_split {program' : List Line} (hls : program? ls = some program)
    (hms : program? ms = some program') (h : split f program = split f program') :
    extractLines f ls = extractLines f ms := by
  simp only [extractLines, hls, hms, h]

lemma split_idle (h : IsIdle line) (ls : List Line) : split f (line :: ls) = split f ls := by
  have hkept : isKept f line = false := h.isKept
  rw [split_cons h.closesProgram (by simp [hkept])]
  simp [hkept]

def Start.extend (s : Start f ls) (after : List Line) : Start f (ls ++ after) :=
  { s with
    rest := s.rest ++ after
    listing_eq := by
      conv_lhs => rw [s.listing_eq]
      simp only [List.append_assoc, List.cons_append] }

lemma Start.extractLines_extend (s : Start f ls) (h : Closes 1 s.rest) (after : List Line) :
    extractLines f (ls ++ after) = extractLines f ls := by
  have hextend : (s.extend after).rest = s.rest ++ after := rfl
  rw [(s.extend after).extractLines_of_closes hextend h,
    s.extractLines_of_closes (List.append_nil _).symm h]
  rfl

lemma Edit.extractLines_eq (h : Edit f ls ms) : extractLines f ls = extractLines f ms := by
  cases h with
  | @before early late line hearly hopens hcloses =>
    have hline : program? (line :: late) = program? late := by
      rw [program?, if_neg (by simp [hopens]), if_neg (by simp [hcloses])]
    apply extractLines_congr_program
    rw [program?_append_of_unopened hearly, program?_append_of_unopened hearly, hline]
  | @inside before head late opening line hbefore hopens hhead hidle =>
    have hprogram (rest : List Line) : program? (before ++ opening :: rest) =
        if before.any Listing.closesProgram then none else some rest := by
      rw [program?_append_of_unopened hbefore, program?, if_pos hopens]
    by_cases hclosed : before.any Listing.closesProgram = true
    · apply extractLines_congr_program
      rw [hprogram, hprogram, if_pos hclosed, if_pos hclosed]
    · have hpassed : ∀ l ∈ head, isKept f l = true → after? (bodyOpen f) l = none :=
        fun l hl hkept => after?_eq_none_iff.mpr fun hopen => (hhead l hl).2 ⟨hkept, hopen⟩
      apply extractLines_congr_split ((hprogram _).trans (if_neg hclosed))
        ((hprogram _).trans (if_neg hclosed))
      rw [split_append (fun l hl => (hhead l hl).1) hpassed,
        split_append (fun l hl => (hhead l hl).1) hpassed, split_idle hidle]
  | behind hends =>
    obtain ⟨s, hcloses⟩ := hends
    rw [s.extractLines_extend hcloses, s.extractLines_extend hcloses]

lemma extractLines_eq_of_edits (h : Relation.EqvGen (Edit f) ls ms) :
    extractLines f ls = extractLines f ms := by
  induction h with
  | rel _ _ hedit => exact hedit.extractLines_eq
  | refl _ => rfl
  | symm _ _ _ ih => exact ih.symm
  | trans _ _ _ _ _ ih ih' => exact ih.trans ih'

lemma exists_endsBody {code : Extracted} (h : extractLines f ls = .ok code) :
    ∃ upto after, ls = upto ++ after ∧ EndsBody f upto := by
  obtain ⟨s, body, after, hrest, hcloses, _⟩ := exists_start h
  have hls : ls = s.before ++ s.opening :: (s.head ++ s.line :: body) ++ after := by
    conv_lhs => rw [s.listing_eq, hrest]
    simp only [List.append_assoc, List.cons_append]
  exact ⟨_, after, hls, { s with rest := body, listing_eq := rfl }, hcloses⟩

end Edit

section

variable {listing listing' : String}

/-- Listings that come from one another by such edits, and by taking them back, have the same
extraction, or the same error. An extraction that succeeds does so however the listing goes on. -/
theorem extract_ignores_edits
    (h : Relation.EqvGen (Edit f) (lines listing.toList) (lines listing'.toList)) :
    extract listing f = extract listing' f ∧
      ∀ code, extract listing f = .ok code →
        ∃ upto after, lines listing.toList = upto ++ after ∧ EndsBody f upto ∧
          ∀ continued : String, upto <+: lines continued.toList →
            extract continued f = .ok code := by
  refine ⟨congrArg _ (extractLines_eq_of_edits h), fun code hcode => ?_⟩
  obtain ⟨upto, after, hlines, hends⟩ := exists_endsBody (extract_eq_ok.mp hcode)
  refine ⟨upto, after, hlines, hends, ?_⟩
  rintro continued ⟨after', hcontinued⟩
  have hedit : Edit f (lines listing.toList) (lines continued.toList) := by
    rw [hlines, ← hcontinued]
    exact .behind hends
  exact extract_eq_ok.mpr (hedit.extractLines_eq ▸ extract_eq_ok.mp hcode)

end

section Annotated

def bare : String := "PROGRAM\x7b\n  f() PROC:<\x7b\n    NOP\n  \x7d>\n\x7dEND>c\n"

def annotated : String :=
  "// generated\nPROGRAM\x7b\n  DECLMETHOD g\n  f() PROC:<\x7b\n    NOP\n  \x7d>\nf() PROC:<\x7b\n"

def opener : Line := "  f() PROC:<\x7b".toList

def bareBody : List Line := ["    NOP".toList, "  \x7d>".toList]

def getterLine : Line := "  DECLMETHOD g".toList

def annotatedUpto : List Line :=
  ["// generated".toList] ++ programOpen.toList :: ([] ++ getterLine :: opener :: bareBody)

lemma endsBody_annotated : EndsBody "f" annotatedUpto :=
  ⟨{ before := ["// generated".toList]
     opening := programOpen.toList
     head := [getterLine]
     line := opener
     first := []
     rest := bareBody
     listing_eq := rfl
     before_outside := by decide +kernel
     opens := by decide +kernel
     head_inside := by decide +kernel
     head_passed := by decide +kernel
     line_kept := by decide +kernel
     line_opens := by decide +kernel }, .more (by decide) (.last (by decide))⟩

lemma edits_annotated :
    Relation.EqvGen (Edit "f") (lines bare.toList) (lines annotated.toList) := by
  let program : List Line := opener :: bareBody ++ [programClose.toList]
  have hbare : lines bare.toList = [] ++ programOpen.toList :: program := by decide +kernel
  have hannotated : lines annotated.toList = annotatedUpto ++ ["f() PROC:<\x7b".toList] := by
    decide +kernel
  have hbefore : Edit "f" ([] ++ programOpen.toList :: program)
      ([] ++ "// generated".toList :: programOpen.toList :: program) :=
    .before (List.forall_mem_nil _) (by decide +kernel) (by decide +kernel)
  have hinside : Edit "f" (["// generated".toList] ++ programOpen.toList :: ([] ++ program))
      (["// generated".toList] ++ programOpen.toList :: ([] ++ getterLine :: program)) :=
    .inside (by decide +kernel) (by decide +kernel) (List.forall_mem_nil _)
      (.inr (.inr (.inl (by decide +kernel))))
  have hbehind : Edit "f" (annotatedUpto ++ [programClose.toList])
      (annotatedUpto ++ ["f() PROC:<\x7b".toList]) :=
    .behind endsBody_annotated
  rw [hbare, hannotated]
  exact (Relation.EqvGen.rel _ _ hbefore).trans _ _ _
    ((Relation.EqvGen.rel _ _ hinside).trans _ _ _ (.rel _ _ hbehind))

theorem extract_ignores_edits_annotated :
    Relation.EqvGen (Edit "f") (lines bare.toList) (lines annotated.toList) ∧
      extract bare "f" = .ok { helpers := "", body := "\n    NOP" } ∧
      extract bare "f" = extract annotated "f" ∧
      ∃ upto after, lines bare.toList = upto ++ after ∧ EndsBody "f" upto ∧
        ∀ continued : String, upto <+: lines continued.toList →
          extract continued "f" = .ok { helpers := "", body := "\n    NOP" } := by
  have hcode : extract bare "f" = .ok { helpers := "", body := "\n    NOP" } :=
    extract_eq_ok.mpr (by decide +kernel)
  obtain ⟨hsame, hkept⟩ := extract_ignores_edits edits_annotated
  exact ⟨edits_annotated, hcode, hsame, hkept _ hcode⟩

end Annotated

end DeployForge.Listing
