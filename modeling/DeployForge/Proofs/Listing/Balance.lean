import DeployForge.Proofs.Listing.Window

/-!
The braces of an extracted body. What stands behind the opener on its own line is taken over
without being counted, so the body is balanced exactly when that is.
-/

namespace DeployForge.Listing

open Text

variable {depth : ℕ} {s t : List Char} {body : List Line}

section Balanced

lemma balanced_of_isBlank (hs : IsBlank s) : Balanced s where
  opened p hp := by
    have hblank : IsBlank p := fun c hc => hs c (hp.subset hc)
    rw [hblank.count_eq_zero rfl]
    exact Nat.zero_le _
  closed := by rw [hs.count_eq_zero rfl, hs.count_eq_zero rfl]

lemma Balanced.append_iff (ht : Balanced t) : Balanced (s ++ t) ↔ Balanced s := by
  have hclosed := ht.closed
  constructor
  · intro h
    have htotal := h.closed
    rw [List.count_append, List.count_append] at htotal
    exact ⟨fun p hp => h.opened p (hp.trans (List.prefix_append ..)), by omega⟩
  · intro h
    have htotal := h.closed
    refine ⟨fun p hp => ?_, by rw [List.count_append, List.count_append]; omega⟩
    rcases List.prefix_or_prefix_of_prefix hp (List.prefix_append s t) with hp' | ⟨q, rfl⟩
    · exact h.opened p hp'
    · have hq := ht.opened q ((List.prefix_append_right_inj s).mp hp)
      rw [List.count_append, List.count_append]
      omega

lemma balanced_trimEnd_iff : Balanced (trimEnd s) ↔ Balanced s := by
  obtain ⟨blank, hblank, hs⟩ := exists_trimEnd_append s
  conv_rhs => rw [hs]
  exact (balanced_of_isBlank hblank).append_iff.symm

end Balanced

section Closing

/-- The depth comes to zero for the first time at a closing `}>`, and blanks alone follow it. -/
def ClosesAtEnd (body : List Line) : Prop :=
  ∃ inner blank, unlines body = inner ++ procClose.toList ++ blank ∧ IsBlank blank ∧
    ∀ p, p <+: inner → p.count '\x7d' < 1 + p.count '\x7b'

lemma depthAfter_unlines (ls : List Line) :
    depthAfter depth (unlines ls) = ls.foldl depthAfter depth := by
  induction ls generalizing depth with
  | nil => rfl
  | cons line ls ih =>
    rw [unlines_cons, depthAfter, List.foldl_append, List.foldl_cons, List.foldl_cons, ← ih]
    rfl

lemma Closes.depth_eq_zero (h : Closes depth body) : body.foldl depthAfter depth = 0 := by
  induction h with
  | last hzero => exact hzero
  | more _ _ ih => exact ih

lemma Closes.balanced_inner {inner blank : List Char} (h : Closes 1 body)
    (hbody : unlines body = inner ++ procClose.toList ++ blank) (hblank : IsBlank blank)
    (hopen : ∀ p, p <+: inner → p.count '\x7d' < 1 + p.count '\x7b') : Balanced inner := by
  have hdepth : depthAfter (depthAfter 1 inner) procClose.toList = 0 := by
    calc depthAfter (depthAfter 1 inner) procClose.toList
        = depthAfter (depthAfter (depthAfter 1 inner) procClose.toList) blank :=
          (depthAfter_of_isBlank hblank).symm
      _ = depthAfter 1 (unlines body) := by simp only [hbody, depthAfter, List.foldl_append]
      _ = 0 := by rw [depthAfter_unlines, h.depth_eq_zero]
  have hclose : depthAfter (depthAfter 1 inner) procClose.toList = depthAfter 1 inner - 1 := rfl
  have hcount : depthAfter 1 inner + inner.count '\x7d' = 1 + inner.count '\x7b' :=
    foldl_brace_add_count hopen
  have hlast := hopen inner (List.prefix_refl inner)
  refine ⟨fun p hp => ?_, by omega⟩
  have hp' := hopen p hp
  omega

lemma balanced_bodyText_iff {first : List Char} (h : Closes 1 body) (hend : ClosesAtEnd body) :
    Balanced (bodyText first body) ↔ Balanced first := by
  obtain ⟨inner, blank, hbody, hblank, hopen⟩ := hend
  have hinner : Balanced inner := h.balanced_inner hbody hblank hopen
  have hline : Balanced ['\n'] := balanced_of_isBlank (by decide)
  have htext : unlines (first :: body) =
      (first ++ ['\n'] ++ inner) ++ procClose.toList ++ blank := by
    rw [unlines_cons, hbody]
    simp
  rw [bodyText, htext, stripClose_append _ hblank, balanced_trimEnd_iff, hinner.append_iff,
    hline.append_iff]

end Closing

section

variable {f listing : String}

def BalancedBody (f listing : String) : Prop :=
  ∀ code, extract listing f = .ok code →
    ∀ (s : Start f (lines listing.toList)) (body after : List Line),
      s.rest = body ++ after → Closes 1 body → (∀ l ∈ body, closesProgram l = false) →
        Balanced code.body.toList

lemma body_code (s : Start f (lines listing.toList)) :
    (s.code body).body.toList = bodyText s.first body :=
  String.toList_ofList

/-- Where a closing `}>` ends the last line, the braces of a body are as balanced as those that
stand behind the opener on its own line. A body that starts on the next line is balanced. -/
theorem balanced_body_iff {code : Extracted} (h : extract listing f = .ok code) :
    ∃ (s : Start f (lines listing.toList)) (body after : List Line),
      s.rest = body ++ after ∧ Closes 1 body ∧ code = s.code body ∧
        (ClosesAtEnd body → (Balanced code.body.toList ↔ Balanced s.first)) := by
  obtain ⟨s, body, after, hrest, hbody, rfl⟩ := exists_start (extract_eq_ok.mp h)
  refine ⟨s, body, after, hrest, hbody, rfl, fun hend => ?_⟩
  rw [body_code]
  exact balanced_bodyText_iff hbody hend

-- A closing that is not the end of its line stays in the body.
example : ¬ Balanced (bodyText [] ["    NOP".toList, "  \x7d> // f".toList]) := by decide +kernel

end

section Opener

def inline : String :=
  "PROGRAM\x7b\n  f() PROC:<\x7b IF:<\x7b NOP \x7d>\n    INC\n  \x7d>\n\x7dEND>c\n"

def inlineStart : Start "f" (lines inline.toList) :=
  .second "PROGRAM\x7b".toList "  f() PROC:<\x7b IF:<\x7b NOP \x7d>".toList
    " IF:<\x7b NOP \x7d>".toList
    ["    INC".toList, "  \x7d>".toList, "\x7dEND>c".toList] (by decide +kernel)

def inlineBody : List Line := ["    INC".toList, "  \x7d>".toList]

lemma closes_inlineBody : Closes 1 inlineBody := .more (by decide) (.last (by decide))

lemma closesAtEnd_inlineBody : ClosesAtEnd inlineBody := by
  refine ⟨"    INC\n  ".toList, ['\n'], rfl, by decide, fun p hp => ?_⟩
  have hnone : "    INC\n  ".toList.count '\x7d' = 0 := by decide +kernel
  have hle := hp.sublist.count_le '\x7d'
  omega

lemma extract_inline :
    extract inline "f" =
      .ok { helpers := "", body := " IF:<\x7b NOP \x7d>\n    INC" } := by
  have hrest : inlineStart.rest = inlineBody ++ ["\x7dEND>c".toList] := rfl
  rw [extract_eq_ok, inlineStart.extractLines_of_closes hrest closes_inlineBody]
  exact (if_neg (by decide +kernel)).trans (congrArg Except.ok (by decide +kernel))

lemma eq_inlineBody {s : Start "f" (lines inline.toList)} {body after : List Line}
    (hrest : s.rest = body ++ after) (hbody : Closes 1 body) : body = inlineBody := by
  have hinline := capture?_of_closes closes_inlineBody ["\x7dEND>c".toList]
  have hcapture := capture?_of_closes hbody after
  rw [← hrest, (s.first_rest_eq inlineStart).2] at hcapture
  exact Option.some.inj (hcapture.symm.trans hinline)

theorem balanced_body_iff_inline :
    extract inline "f" = .ok { helpers := "", body := " IF:<\x7b NOP \x7d>\n    INC" } ∧
    ∃ (s : Start "f" (lines inline.toList)) (body after : List Line),
      s.rest = body ++ after ∧ Closes 1 body ∧
        { helpers := "", body := " IF:<\x7b NOP \x7d>\n    INC" } = s.code body ∧
        ClosesAtEnd body ∧ Balanced s.first ∧
        Balanced " IF:<\x7b NOP \x7d>\n    INC".toList := by
  obtain ⟨s, body, after, hrest, hbody, hcode, hiff⟩ := balanced_body_iff extract_inline
  have hend : ClosesAtEnd body := eq_inlineBody hrest hbody ▸ closesAtEnd_inlineBody
  have hfirst : Balanced s.first := by
    rw [(s.first_rest_eq inlineStart).1]
    decide +kernel
  exact ⟨extract_inline, s, body, after, hrest, hbody, hcode, hend, hfirst,
    (hiff hend).mpr hfirst⟩

def astride : String :=
  "PROGRAM\x7b\n  f() PROC:<\x7b IF:<\x7b\n    NOP\n    \x7d>\n  \x7d>\n\x7dEND>c\n"

def astrideStart : Start "f" (lines astride.toList) :=
  .second "PROGRAM\x7b".toList "  f() PROC:<\x7b IF:<\x7b".toList " IF:<\x7b".toList
    ["    NOP".toList, "    \x7d>".toList, "  \x7d>".toList, "\x7dEND>c".toList]
    (by decide +kernel)

theorem not_balancedBody_astride : ¬ BalancedBody "f" astride := by
  have hbody : Closes 1 ["    NOP".toList, "    \x7d>".toList] :=
    .more (by decide) (.last (by decide))
  have hrest : astrideStart.rest = ["    NOP".toList, "    \x7d>".toList] ++
      ["  \x7d>".toList, "\x7dEND>c".toList] :=
    rfl
  have hcode := astrideStart.extractLines_of_closes hrest hbody
  rw [if_neg (by decide +kernel), ← extract_eq_ok] at hcode
  intro h
  have hbalanced := h _ hcode astrideStart _ _ rfl hbody (by decide +kernel)
  rw [body_code] at hbalanced
  exact absurd hbalanced (by decide +kernel)

end Opener

end DeployForge.Listing
