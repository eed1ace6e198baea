import DeployForge.Proofs.Listing.Rendering
import DeployForge.Proofs.Listing.Window

/-!
Forward declarations among the helpers. The one that is left out is looked for as a part of a line,
so the declaration of a longer name goes with it when that name begins with the name of the
function.
-/

namespace DeployForge.Listing

open Text

variable {f g : String} {listing : String} {ls early late : List Line} {line : Line}

section Line

def Alone (word : List Char) (line : Line) : Prop :=
  ∃ left right, line = left ++ word ++ right ∧ IsBlank left ∧ IsBlank right

lemma Alone.trim_eq {first last : Char} {mid : List Char}
    (h : Alone (first :: (mid ++ [last])) line) (hfirst : isBlank first = false)
    (hlast : isBlank last = false) : trim line = first :: (mid ++ [last]) := by
  obtain ⟨left, right, rfl, hleft, hright⟩ := h
  exact trim_between mid hleft hright hfirst hlast

lemma forwardDecl_eq (f : String) : forwardDecl f = "DECLPROC".toList ++ ' ' :: f.toList := by
  simp [forwardDecl, procDecl]

lemma IsName.trim_declaration (hg : IsName g) (h : Alone (forwardDecl g) line) :
    trim line = forwardDecl g := by
  obtain ⟨name, last, hname⟩ := (List.eq_nil_or_concat g.toList).resolve_left hg.ne_nil
  have hlast : isBlank last = false := (hg.solid last (by simp [hname])).1
  have hdecl : forwardDecl g = 'D' :: (("ECLPROC ".toList ++ name) ++ [last]) := by
    simp [forwardDecl_eq, hname]
  rw [hdecl] at h ⊢
  exact h.trim_eq rfl hlast

lemma IsName.space_notMem (hg : IsName g) : ' ' ∉ g.toList := by
  intro hmem
  have hsolid := (hg.solid ' ' hmem).1
  cases hsolid

/-- There is one blank in either declaration, so it stands at the same place in both. -/
lemma forwardDecl_infix_iff (hg : IsName g) :
    forwardDecl f <:+: forwardDecl g ↔ f.toList <+: g.toList := by
  rw [forwardDecl_eq, forwardDecl_eq]
  constructor
  · rintro ⟨left, right, h⟩
    have h' : "DECLPROC".toList ++ ' ' :: g.toList =
        (left ++ "DECLPROC".toList) ++ ' ' :: (f.toList ++ right) := by
      rw [← h]
      simp only [List.append_assoc, List.cons_append]
    obtain ⟨_, _, hname⟩ := (List.append_cons_inj_of_notMem (by decide) hg.space_notMem).mp h'
    exact ⟨right, hname.symm⟩
  · rintro ⟨right, hname⟩
    refine ⟨[], right, ?_⟩
    rw [← hname]
    simp only [List.nil_append, List.append_assoc, List.cons_append]

lemma isKept_declaration_iff (hg : IsName g) (h : Alone (forwardDecl g) line) :
    isKept f line = true ↔ ¬ f.toList <+: g.toList := by
  have htrim := hg.trim_declaration h
  have hspace : ' ' ∈ forwardDecl g := by simp [forwardDecl_eq]
  have hmarker : ∀ marker : String, ' ' ∉ marker.toList → ¬ forwardDecl g = marker.toList :=
    fun marker hnone hmarker => hnone (hmarker ▸ hspace)
  have hblank : ¬ IsBlank line := by
    rw [← trim_eq_nil_iff, htrim, forwardDecl_eq]
    simp
  have hgetter : ¬ methodDecl.toList <:+: forwardDecl g := by
    rw [forwardDecl_eq, infix_append_cons_iff (by decide)]
    rintro (hi | hi)
    · exact absurd hi (by decide +kernel)
    · exact hg.not_getter hi
  have hcomment : ¬ "//".toList <+: forwardDecl g := by
    rw [forwardDecl_eq]
    exact fun hi => absurd (List.cons_prefix_cons.mp hi).1 (by decide)
  rw [isKept_iff, isSkipped_eq_false_iff]
  simp only [opensProgram, closesProgram, htrim, decide_eq_false_iff_not,
    hmarker programOpen (by decide), hmarker programClose (by decide), hblank, hcomment, hgetter,
    forwardDecl_infix_iff hg, not_false_eq_true, true_and]

end Line

section Helpers

lemma indented_append (early late : List Line) :
    indented (early ++ late) = indented early ++ indented late := by
  rw [indented, List.map_append, unlines_append]
  rfl

lemma Start.split_unique (s s' : Start f ls) :
    s.head.filter (isKept f) = s'.head.filter (isKept f) ∧ s.first = s'.first ∧
      s.rest = s'.rest := by
  have hprogram := s.program?_eq.symm.trans s'.program?_eq
  have hsplit : (s.head.filter (isKept f), some (s.first, s.rest)) =
      (s'.head.filter (isKept f), some (s'.first, s'.rest)) := by
    rw [← s.split_eq, ← s'.split_eq, Option.some_inj.mp hprogram]
  obtain ⟨hhelpers, hbody⟩ := Prod.mk.inj hsplit
  exact ⟨hhelpers, Prod.mk.inj (Option.some_inj.mp hbody)⟩

lemma Start.line_unique (s s' : Start f ls) : s.line = s'.line := by
  have hprogram := s.program?_eq.symm.trans s'.program?_eq
  rw [Option.some_inj, (s.split_unique s').2.2, List.append_cons, List.append_cons s'.head,
    List.append_cancel_right_eq] at hprogram
  exact List.head_eq_of_cons_eq (List.append_inj' hprogram rfl).2

lemma Start.helpers_eq {code : Extracted} (s : Start f ls) (h : extractLines f ls = .ok code) :
    code.helpers.toList = indented (s.head.filter (isKept f)) := by
  obtain ⟨s', body, after, _, _, rfl⟩ := exists_start h
  rw [(s.split_unique s').1]
  exact String.toList_ofList

lemma Start.helpers_eq_iff {code : Extracted} (s : Start f ls) (h : extractLines f ls = .ok code)
    (hhead : s.head = early ++ line :: late) :
    code.helpers.toList = indented (early.filter (isKept f) ++ line :: late.filter (isKept f)) ↔
      isKept f line = true := by
  rw [s.helpers_eq h, hhead, List.filter_append]
  by_cases hkept : isKept f line = true
  · rw [List.filter_cons_of_pos hkept]
    exact iff_of_true rfl hkept
  · rw [List.filter_cons_of_neg hkept]
    refine iff_of_false (fun heq => ?_) hkept
    rw [indented_append, indented_append, List.append_cancel_left_eq] at heq
    have hlength := congrArg List.length heq
    simp [indented] at hlength
    omega

end Helpers

/-- A declaration of another name is kept, at its place. -/
def KeepsDeclarations (f listing : String) : Prop :=
  ∀ code, extract listing f = .ok code →
    ∀ (s : Start f (lines listing.toList)) (early late : List Line) (line : Line) (g : String),
      s.head = early ++ line :: late → IsName g → Alone (forwardDecl g) line → g ≠ f →
        code.helpers.toList =
          indented (early.filter (isKept f) ++ line :: late.filter (isKept f))

/-- Of the names declared before the body, only that of the function begins with it. -/
def NoneExtends (f listing : String) : Prop :=
  ∀ code, extract listing f = .ok code →
    ∀ s : Start f (lines listing.toList), ∀ line ∈ s.head, ∀ g, IsName g → Alone (forwardDecl g) line →
      f.toList <+: g.toList → g = f

/-- The declarations of other names are kept exactly when none of these names begins with that of
the function. -/
theorem keepsDeclarations_iff : KeepsDeclarations f listing ↔ NoneExtends f listing := by
  constructor
  · intro h code hcode s line hline g hg hdecl hextends
    by_contra hne
    obtain ⟨early, late, hhead⟩ := List.append_of_mem hline
    have hkept := h code hcode s early late line g hhead hg hdecl hne
    rw [s.helpers_eq_iff (extract_eq_ok.mp hcode) hhead, isKept_declaration_iff hg hdecl] at hkept
    exact hkept hextends
  · intro h code hcode s early late line g hhead hg hdecl hne
    rw [s.helpers_eq_iff (extract_eq_ok.mp hcode) hhead, isKept_declaration_iff hg hdecl]
    exact fun hextends => hne (h code hcode s line (by simp [hhead]) g hg hdecl hextends)

def extending : String :=
  "PROGRAM\x7b\n  DECLPROC fooBar\n  DECLPROC foo\n  foo() PROC:<\x7b\n    fooBar CALLDICT\n  \x7d>\n\x7dEND>c\n"

lemma outside_extending : ∀ l ∈ ([] : List Line), opensProgram l = false ∧ closesProgram l = false :=
  List.forall_mem_nil _

lemma inside_extending : ∀ l ∈ ["  DECLPROC fooBar".toList, "  DECLPROC foo".toList],
    closesProgram l = false :=
  List.forall_mem_cons.mpr ⟨by decide +kernel, List.forall_mem_singleton.mpr (by decide +kernel)⟩

lemma passed_extending : ∀ l ∈ ["  DECLPROC fooBar".toList, "  DECLPROC foo".toList],
    isKept "foo" l = true → after? (bodyOpen "foo") l = none :=
  List.forall_mem_cons.mpr ⟨by decide +kernel, List.forall_mem_singleton.mpr (by decide +kernel)⟩

def extendingStart : Start "foo" (lines extending.toList) where
  before := []
  opening := "PROGRAM\x7b".toList
  head := ["  DECLPROC fooBar".toList, "  DECLPROC foo".toList]
  line := "  foo() PROC:<\x7b".toList
  first := []
  rest := ["    fooBar CALLDICT".toList, "  \x7d>".toList, "\x7dEND>c".toList]
  listing_eq := by decide +kernel
  before_outside := outside_extending
  opens := opensProgram_plain
  head_inside := inside_extending
  head_passed := passed_extending
  line_kept := by decide +kernel
  line_opens := by decide +kernel

lemma extract_extending :
    extract extending "foo" = .ok { helpers := "", body := "\n    fooBar CALLDICT" } :=
  extract_eq_ok.mpr (by decide +kernel)

lemma isName_extending : IsName "fooBar" := by
  have hsolid : "fooBar".toList.all (fun c => isBlank c = false ∧ c ≠ '/') = true := by
    decide +kernel
  exact ⟨by decide, fun c hc => of_decide_eq_true (List.all_eq_true.mp hsolid c hc),
    by decide +kernel⟩

theorem not_keepsDeclarations_extending : ¬ KeepsDeclarations "foo" extending := by
  intro h
  have hdecl : Alone (forwardDecl "fooBar") "  DECLPROC fooBar".toList :=
    ⟨"  ".toList, [], by decide, by decide, by decide⟩
  have hkept := h _ extract_extending extendingStart [] ["  DECLPROC foo".toList] _ "fooBar" rfl
    isName_extending hdecl (by decide)
  rw [extendingStart.helpers_eq_iff (extract_eq_ok.mp extract_extending) rfl] at hkept
  exact absurd hkept (by decide +kernel)

end DeployForge.Listing
