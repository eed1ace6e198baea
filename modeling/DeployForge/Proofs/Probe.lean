import DeployForge.Probe
import DeployForge.Proofs.Disk.ReadBack
import DeployForge.Proofs.Listing.Rendering
import DeployForge.Proofs.Listing.Window

/-!
The code of a function as a probe holds it. It stands there between quotes, and in it the helper
lines stand before the line of the separator, so all of it is read back out of the probe.
-/

namespace DeployForge

open Text

namespace Listing

variable {f f' listing listing' : String} {line : Line} {helpers : List Line}
  {code code' : Extracted}

section Helpers

def isSeparator (line : Line) : Bool := trim line = bodySeparator.toList

structure IsPlain (line : Line) : Prop where
  not_blank : ¬ IsBlank line
  no_feed : '\n' ∉ line
  not_separator : isSeparator line = false

lemma isSeparator_indented (hkept : isKept f line = true) :
    isSeparator (indent.toList ++ line) = false := by
  have hcomment := (isSkipped_eq_false_iff.mp (isKept_iff.mp hkept).2.2).2.1
  have htrim : trim (indent.toList ++ line) = trim line := by
    have hblanks := trim_append_blanks line (by decide : IsBlank indent.toList)
      (List.forall_mem_nil _ : IsBlank [])
    rwa [List.append_nil] at hblanks
  rw [isSeparator, htrim, decide_eq_false_iff_not]
  -- The separator is a comment, and those are left out.
  intro hline
  rw [hline] at hcomment
  exact hcomment (by decide)

lemma exists_helpers (h : extract listing f = .ok code) :
    ∃ helpers, code.helpers.toList = unlines helpers ∧ ∀ l ∈ helpers, IsPlain l := by
  obtain ⟨s, body, _, _, _, rfl⟩ := exists_start (extract_eq_ok.mp h)
  refine ⟨(s.head.filter (isKept f)).map (indent.toList ++ ·), String.toList_ofList, ?_⟩
  intro l hl
  obtain ⟨line, hline, rfl⟩ := List.mem_map.mp hl
  obtain ⟨hhead, hkept⟩ := List.mem_filter.mp hline
  have hlisting : line ∈ lines listing.toList := by
    rw [s.listing_eq]
    simp [hhead]
  have hblank := (isSkipped_eq_false_iff.mp (isKept_iff.mp hkept).2.2).1
  refine ⟨fun h => hblank (isBlank_append_iff.mp h).2, ?_, isSeparator_indented hkept⟩
  rw [List.mem_append, not_or]
  exact ⟨by decide, feed_notMem_of_mem_lines hlisting⟩

/-- The lines before the separator: the first helper line has lost its margin, and an empty line
stands behind the last. -/
def leading : List Line → List Line
  | [] => []
  | first :: more => trimStart first :: more ++ [[]]

lemma unlines_leading {first : Line} (hfirst : ¬ IsBlank first) (more : List Line) :
    unlines (leading (first :: more)) = trimStart (unlines (first :: more)) ++ ['\n'] := by
  rw [leading, unlines_append, unlines_cons, unlines_cons first,
    trimStart_append_of_not_isBlank hfirst]
  rfl

lemma trim_unlines_leading (h : ∀ l ∈ helpers, IsPlain l) :
    trim (unlines (leading helpers)) = trim (unlines helpers) := by
  cases helpers with
  | nil => rfl
  | cons first more =>
    rw [unlines_leading (h first List.mem_cons_self).not_blank, ← List.nil_append (_ ++ _),
      trim_append_blanks _ (List.forall_mem_nil _) (List.forall_mem_singleton.mpr rfl),
      trim_trimStart]

lemma leading_passed (h : ∀ l ∈ helpers, IsPlain l) :
    ∀ l ∈ leading helpers, '\n' ∉ l ∧ isSeparator l = false := by
  cases helpers with
  | nil => exact List.forall_mem_nil _
  | cons first more =>
    obtain ⟨hfirst, hmore⟩ := List.forall_mem_cons.mp h
    have hmargin : '\n' ∉ trimStart first ∧ isSeparator (trimStart first) = false := by
      refine ⟨fun hmem => hfirst.no_feed ((trimStart_isSuffix first).subset hmem), ?_⟩
      rw [isSeparator, trim_trimStart]
      exact hfirst.not_separator
    rw [leading, List.forall_mem_append]
    refine ⟨List.forall_mem_cons.mpr ⟨hmargin, fun l hl => ?_⟩, ?_⟩
    · exact ⟨(hmore l hl).no_feed, (hmore l hl).not_separator⟩
    · exact List.forall_mem_singleton.mpr ⟨List.not_mem_nil, by decide⟩

end Helpers

section Cut

def cut (text : List Char) : List Line × List Char :=
  let pieces := splitAt '\n' text
  (pieces.takeWhile (!isSeparator ·), ['\n'].intercalate (pieces.dropWhile (!isSeparator ·)).tail)

def separatorLine (helpers : List Line) : Line :=
  -- Where no helper stands before it, the margin is trimmed away.
  (if helpers = [] then [] else indent.toList) ++ bodySeparator.toList

lemma separatorLine_spec (helpers : List Line) :
    '\n' ∉ separatorLine helpers ∧ isSeparator (separatorLine helpers) = true := by
  rw [separatorLine]
  split <;> decide +kernel

lemma text_eq (hhelpers : code.helpers.toList = unlines helpers)
    (hplain : ∀ l ∈ helpers, IsPlain l) :
    code.text.toList = unlines (leading helpers) ++
      (separatorLine helpers ++ trimEnd ('\n' :: code.body.toList)) := by
  obtain ⟨separator, last, hseparator, hlast⟩ : ∃ s c, bodySeparator.toList = s ++ [c] ∧
      isBlank c = false := ⟨"// Main deploy function content".toList, ':', by decide, by decide⟩
  have htrimmed : code.text.toList = trim (unlines helpers ++ '\n' ::
      (indent.toList ++ (bodySeparator.toList ++ '\n' :: code.body.toList))) := by
    simp [Extracted.text, trimmed, hhelpers]
  have hend (margin : List Char) :
      trimEnd (margin ++ (bodySeparator.toList ++ '\n' :: code.body.toList)) =
        margin ++ (bodySeparator.toList ++ trimEnd ('\n' :: code.body.toList)) := by
    rw [hseparator, List.append_assoc, ← List.append_assoc, List.singleton_append,
      trimEnd_append_cons _ hlast]
    simp
  rw [htrimmed, trim, separatorLine]
  cases helpers with
  | nil =>
    have hstart : trimStart ('\n' :: (indent.toList ++
        (bodySeparator.toList ++ '\n' :: code.body.toList))) =
          bodySeparator.toList ++ '\n' :: code.body.toList := rfl
    rw [unlines_nil, List.nil_append, hstart]
    exact hend []
  | cons first more =>
    have hfirst := (hplain first List.mem_cons_self).not_blank
    have hblank : ¬ IsBlank (unlines (first :: more)) := fun h =>
      hfirst (isBlank_unlines_iff.mp h first List.mem_cons_self)
    rw [trimStart_append_of_not_isBlank hblank, unlines_leading hfirst, if_neg (by simp)]
    have hmargin := hend (trimStart (unlines (first :: more)) ++ '\n' :: indent.toList)
    simpa only [List.append_assoc, List.cons_append, List.nil_append] using hmargin

lemma intercalate_splitAt (s : List Char) : ['\n'].intercalate (splitAt '\n' s) = s := by
  rw [splitAt_eq_splitOn]
  exact List.intercalate_splitOn '\n'

lemma cut_append {before : List Line} {line : Line}
    (hbefore : ∀ l ∈ before, '\n' ∉ l ∧ isSeparator l = false)
    (hline : '\n' ∉ line ∧ isSeparator line = true) (s : List Char) :
    cut (unlines before ++ (line ++ trimEnd ('\n' :: s))) = (before, trimEnd s) := by
  have hpassed : ∀ l ∈ before, (!isSeparator l) = true := fun l hl => by simp [(hbefore l hl).2]
  -- Behind the line there is nothing, or a line feed and what is left of the text.
  obtain ⟨more, hsplit, hmore⟩ : ∃ more,
      splitAt '\n' (line ++ trimEnd ('\n' :: s)) = line :: more ∧
        ['\n'].intercalate more = trimEnd s := by
    by_cases hs : IsBlank s
    · have hfeed : trimEnd ('\n' :: s) = [] :=
        trimEnd_eq_nil_iff.mpr (List.forall_mem_cons.mpr ⟨rfl, hs⟩)
      refine ⟨[], ?_, (trimEnd_eq_nil_iff.mpr hs).symm⟩
      rw [hfeed, List.append_nil, splitAt_of_notMem hline.1]
    · have hfeed : trimEnd ('\n' :: s) = '\n' :: trimEnd s := trimEnd_append_of_not_isBlank ['\n'] hs
      refine ⟨splitAt '\n' (trimEnd s), ?_, intercalate_splitAt _⟩
      rw [hfeed, splitAt_piece hline.1]
  have htake : (before ++ line :: more).takeWhile (!isSeparator ·) = before := by
    simp [List.takeWhile_append_of_pos hpassed, hline.2]
  have hdrop : (before ++ line :: more).dropWhile (!isSeparator ·) = line :: more := by
    simp [List.dropWhile_append_of_pos hpassed, hline.2]
  rw [cut, splitAt_unlines_append (fun l hl => (hbefore l hl).1), hsplit, htake, hdrop,
    List.tail_cons, hmore]

lemma cut_text (hhelpers : code.helpers.toList = unlines helpers)
    (hplain : ∀ l ∈ helpers, IsPlain l) :
    cut code.text.toList = (leading helpers, trimEnd code.body.toList) := by
  rw [text_eq hhelpers hplain]
  exact cut_append (leading_passed hplain) (separatorLine_spec helpers) _

lemma eq_of_text_eq (hcode : extract listing f = .ok code)
    (hcode' : extract listing' f' = .ok code') (h : code.text = code'.text) :
    trimmed code.helpers = trimmed code'.helpers ∧
      trimEnd code.body.toList = trimEnd code'.body.toList := by
  obtain ⟨helpers, hhelpers, hplain⟩ := exists_helpers hcode
  obtain ⟨helpers', hhelpers', hplain'⟩ := exists_helpers hcode'
  have hcut := cut_text hhelpers hplain
  rw [h, cut_text hhelpers' hplain'] at hcut
  obtain ⟨hleading, hbody⟩ := Prod.mk.inj hcut
  refine ⟨?_, hbody.symm⟩
  rw [trimmed, trimmed, hhelpers, hhelpers', ← trim_unlines_leading hplain,
    ← trim_unlines_leading hplain', hleading]

end Cut

end Listing

namespace ProbeModule

open Listing

variable {f f' listing listing' accessor accessor' source : String} {code code' : Extracted}
  {probe probe' : ProbeModule} {d d' e e' : Disk}

lemma write_eq_ok (h : probe.write source d = (.ok (), d')) :
    d.writeText probe.path source = (.ok (), d') := by
  rw [ProbeModule.write] at h
  rcases hw : d.writeText probe.path source with ⟨e | _, after⟩
  · simp [hw] at h
  · simpa [hw] using h

def quotes : List Char := "\"\"\"".toList

/-- The text between the first opening of an assembly block and the quotes that follow it. -/
def quoted? (source : List Char) : Option (List Char) :=
  (after? ("asm ".toList ++ quotes) source).bind (before? quotes)

section Source

def sourceHead : String := "\nfun deployFunctionCell(): cell\n    asm \"\"\"<\x7b\n    "

def sourceMiddle : String :=
  "\n\x7d>c PUSHREF\"\"\";\n\n\nfun onInternalMessage(): void \x7b\n\x7d\n\nget fun "

def sourceTail : String := "(): cell \x7b\n    return deployFunctionCell();\n\x7d"

lemma codeSource_eq (asm accessor : String) :
    codeSource asm accessor = sourceHead ++ asm ++ sourceMiddle ++ accessor ++ sourceTail :=
  rfl

lemma sourceHead_eq : sourceHead.toList =
    "\nfun deployFunctionCell(): cell\n    ".toList ++ ('a' :: ("sm ".toList ++ quotes)) ++
      ("<\x7b\n   ".toList ++ [' ']) := by
  decide +kernel

lemma exists_sourceMiddle_eq : ∃ tail, sourceMiddle.toList =
    '\n' :: ("\x7d>c PUSHRE".toList ++ 'F' :: (quotes ++ tail)) :=
  ⟨";\n\n\nfun onInternalMessage(): void \x7b\n\x7d\n\nget fun ".toList, by decide +kernel⟩

def block (asm : String) : List Char :=
  "<\x7b\n   ".toList ++ ' ' :: (asm.toList ++ '\n' :: "\x7d>c PUSHRE".toList)

lemma block_eq (asm : String) : block asm =
    "<\x7b\n   ".toList ++ ' ' :: (asm.toList ++ '\n' :: "\x7d>c PUSHRE".toList) :=
  rfl

lemma not_infix_block {asm : String} (hfree : ¬ quotes <:+: asm.toList) :
    ¬ quotes <:+: block asm := by
  have hspace : ' ' ∉ quotes := by decide
  have hfeed : '\n' ∉ quotes := by decide
  intro h
  -- Blanks keep the code apart from what stands around it, which has no quote in it.
  rcases (infix_append_cons_iff hspace).mp h with h | h
  · exact absurd h (by decide +kernel)
  rcases (infix_append_cons_iff hfeed).mp h with h | h
  · exact hfree h
  · exact absurd h (by decide +kernel)

lemma block_concat (asm : String) :
    block asm ++ ['F'] = "<\x7b\n    ".toList ++ asm.toList ++ "\n\x7d>c PUSHREF".toList := by
  have hopen : "<\x7b\n    ".toList = "<\x7b\n   ".toList ++ [' '] := by decide +kernel
  have hclose : "\n\x7d>c PUSHREF".toList = '\n' :: ("\x7d>c PUSHRE".toList ++ ['F']) := by
    decide +kernel
  rw [hopen, hclose, block_eq]
  simp only [List.append_assoc, List.cons_append, List.nil_append]

lemma exists_codeSource_eq (asm accessor : String) : ∃ tail,
    (codeSource asm accessor).toList =
      "\nfun deployFunctionCell(): cell\n    ".toList ++ ('a' :: ("sm ".toList ++ quotes)) ++
        (block asm ++ 'F' :: (quotes ++ tail)) := by
  obtain ⟨tail, hmiddle⟩ := exists_sourceMiddle_eq
  refine ⟨tail ++ accessor.toList ++ sourceTail.toList, ?_⟩
  rw [codeSource_eq]
  simp only [String.toList_append, sourceHead_eq, hmiddle, block_eq, List.append_assoc,
    List.cons_append, List.nil_append]

lemma quoted?_codeSource {asm : String} (hfree : ¬ quotes <:+: asm.toList) (accessor : String) :
    quoted? (codeSource asm accessor).toList =
      some ("<\x7b\n    ".toList ++ asm.toList ++ "\n\x7d>c PUSHREF".toList) := by
  obtain ⟨tail, hsource⟩ := exists_codeSource_eq asm accessor
  have hasm : "asm ".toList ++ quotes = 'a' :: ("sm ".toList ++ quotes) := by decide +kernel
  rw [quoted?, hsource, hasm, after?_of_notMem _ _ (by decide), Option.bind_some,
    before?_append_cons (by decide) (not_infix_block hfree), before?_self_append, Option.map_some,
    block_concat]

lemma eq_of_codeSource_eq {asm asm' : String} (hfree : ¬ quotes <:+: asm.toList)
    (hother : accessor' = accessor ∨ ¬ quotes <:+: asm'.toList)
    (h : codeSource asm accessor = codeSource asm' accessor') : asm = asm' := by
  rw [← String.toList_inj]
  rcases hother with rfl | hfree'
  · have hsource := congrArg String.toList h
    simp only [codeSource_eq, String.toList_append, List.append_assoc,
      List.append_cancel_left_eq] at hsource
    simp only [← List.append_assoc, List.append_cancel_right_eq] at hsource
    exact hsource
  · have hquoted := quoted?_codeSource hfree accessor
    rw [h, quoted?_codeSource hfree' accessor', Option.some_inj] at hquoted
    exact (List.append_cancel_left (List.append_cancel_right hquoted)).symm

end Source

/-- What was extracted is read back out of the probe: the text of the code between the quotes,
and in it the helper lines and the body on the two sides of the separator. No other extraction
has left the same source. -/
theorem bindCode_lossless (hcode : extract listing f = .ok code)
    (hfree : ¬ quotes <:+: code.text.toList)
    (hbind : probe.bindCode code accessor d = (.ok (), d')) :
    ∃ source, d'.readText probe.path = .ok source ∧
      quoted? source.toList =
        some ("<\x7b\n    ".toList ++ code.text.toList ++ "\n\x7d>c PUSHREF".toList) ∧
      (∃ helpers, code.helpers.toList = unlines helpers ∧ (∀ l ∈ helpers, IsPlain l) ∧
        cut code.text.toList = (leading helpers, trimEnd code.body.toList)) ∧
      ∀ (listing' f' : String) (code' : Extracted) (probe' : ProbeModule) (accessor' : String)
        (e e' : Disk), extract listing' f' = .ok code' →
          accessor' = accessor ∨ ¬ quotes <:+: code'.text.toList →
          probe'.bindCode code' accessor' e = (.ok (), e') →
          e'.readText probe'.path = .ok source →
          trimmed code.helpers = trimmed code'.helpers ∧
            trimEnd code.body.toList = trimEnd code'.body.toList := by
  refine ⟨codeSource code.text accessor, Disk.readText_of_writeText (write_eq_ok hbind),
    quoted?_codeSource hfree accessor, ?_, ?_⟩
  · obtain ⟨helpers, hhelpers, hplain⟩ := exists_helpers hcode
    exact ⟨helpers, hhelpers, hplain, cut_text hhelpers hplain⟩
  · intro listing' f' code' probe' accessor' e e' hcode' hother hbind' hread
    have hsame : codeSource code'.text accessor' = codeSource code.text accessor := by
      rw [Disk.readText_of_writeText (write_eq_ok hbind')] at hread
      exact Except.ok.inj hread
    exact eq_of_text_eq hcode hcode' (eq_of_codeSource_eq hfree hother hsame.symm)

section Held

def sample : String := "PROGRAM\x7b\n  DECLPROC g\n  f() PROC:<\x7b\n    NOP\n  \x7d>\n\x7dEND>c\n"

def held : Extracted := { helpers := "      DECLPROC g\n", body := "\n    NOP" }

def holder : ProbeModule := ⟨⟨"probe.tolk"⟩⟩

theorem bindCode_lossless_held :
    extract sample "f" = .ok held ∧ ¬ quotes <:+: held.text.toList ∧
      (holder.bindCode held "getCell" {}).1 = .ok () ∧
      ∃ source, (holder.bindCode held "getCell" {}).2.readText holder.path = .ok source ∧
        quoted? source.toList =
          some ("<\x7b\n    ".toList ++ held.text.toList ++ "\n\x7d>c PUSHREF".toList) := by
  have hcode : extract sample "f" = .ok held := extract_eq_ok.mpr (by decide +kernel)
  have hfree : ¬ quotes <:+: held.text.toList := by decide +kernel
  have hbind : (holder.bindCode held "getCell" {}).1 = .ok () :=
    toOption_eq_some.mp (by decide +kernel)
  obtain ⟨source, hread, hquoted, _⟩ := bindCode_lossless hcode hfree (Prod.ext hbind rfl)
  exact ⟨hcode, hfree, hbind, source, hread, hquoted⟩

end Held

end ProbeModule

end DeployForge
