import DeployForge.Proofs.Replacement.Repeats
import Mathlib.Logic.Function.Basic

/-!
Where a text is cut depends on the tokens alone. Two sets with the same tokens fill the same cut,
and an override changes the filling of its own token.
-/

namespace DeployForge

variable {s t : List Char} {set set' : ReplacementSet} {spans : List Span} {taken kept : List Span}
  {pairs pairs' : List (String × String)} {token value text : String} {start : ℕ}

namespace Span

def place (span : Span) : ℕ × ℕ := (span.start, span.stop)

lemma place_ofToken (token value value' : String) :
    place ∘ ofToken token value = place ∘ ofToken token value' :=
  rfl

lemma Apart.of_place {a b a' b' : Span} (h : a.Apart b) (ha : a.place = a'.place)
    (hb : b.place = b'.place) : a'.Apart b' := by
  simp only [place, Prod.mk.injEq] at ha hb
  simp only [Apart] at h ⊢
  omega

lemma forall_apart_of_places {taken taken' : List Span} {span span' : Span}
    (htaken : taken.map place = taken'.map place) (hspan : span.place = span'.place)
    (hfree : ∀ other ∈ taken, span.Apart other) : ∀ other ∈ taken', span'.Apart other := by
  intro other hother
  have hmem : other.place ∈ taken.map place := by
    rw [htaken]
    exact List.mem_map_of_mem hother
  obtain ⟨same, hsame, heq⟩ := List.mem_map.mp hmem
  exact (hfree same hsame).of_place hspan heq

end Span

/-- A text in pieces: gaps, and the tokens that stand between them. -/
inductive Cut where
  | last (gap : List Char)
  | before (gap : List Char) (token : String) (rest : Cut)

namespace Cut

def fill (value : String → String) : Cut → List Char
  | last gap => gap
  | before gap token rest => gap ++ (value token).toList ++ rest.fill value

def places (start : ℕ) : Cut → List (ℕ × ℕ)
  | last _ => []
  | before gap token rest =>
    (start + gap.length, start + gap.length + token.toList.length)
      :: rest.places (start + gap.length + token.toList.length)

lemma eq_of_places {cut cut' : Cut} (hfill : cut.fill id = cut'.fill id)
    (hplaces : cut.places start = cut'.places start) : cut = cut' := by
  induction cut generalizing start cut' with
  | last gap =>
    cases cut' with
    | last gap' => exact congrArg last hfill
    | before => cases hplaces
  | before gap token rest ih =>
    cases cut' with
    | last => cases hplaces
    | before gap' token' rest' =>
      simp only [places, List.cons.injEq, Prod.mk.injEq] at hplaces
      obtain ⟨⟨hstart, hstop⟩, hrest⟩ := hplaces
      simp only [fill, id, List.append_assoc] at hfill
      obtain ⟨rfl, htokens⟩ := List.append_inj hfill (by omega)
      obtain ⟨htoken, hbehind⟩ := List.append_inj htokens (by omega)
      obtain rfl := String.toList_inj.mp htoken
      rw [ih hbehind hrest]

/-- The cut of `text` at the spans that `set` replaces, which hold `value` of their tokens in the
result. -/
structure Describes (cut : Cut) (set : ReplacementSet) (value : String → String) (text : String) :
    Prop where
  source : cut.fill id = text.toList
  places : cut.places 0 = (set.spans text.toList).map Span.place
  result : (set.apply text).toList = cut.fill value

lemma Describes.unique {cut cut' : Cut} {f f' : String → String} (h : cut.Describes set f text)
    (h' : cut'.Describes set' f' text)
    (hplaces : (set.spans text.toList).map Span.place = (set'.spans text.toList).map Span.place) :
    cut = cut' := by
  apply eq_of_places (h.source.trans h'.source.symm)
  rw [h.places, h'.places, hplaces]

end Cut

namespace ReplacementSet

open DeployForge.Span

lemma Decomposes.exists_cut {f : String → String} (h : Decomposes pairs start spans s t)
    (hf : ∀ token value, (token, value) ∈ pairs → f token = value) :
    ∃ cut : Cut, cut.fill id = s ∧ cut.places start = spans.map place ∧ cut.fill f = t := by
  induction h with
  | @rest start gap => exact ⟨.last gap, rfl, rfl, rfl⟩
  | @span start gap s t token value spans hmem _ _ ih =>
    obtain ⟨cut, hsource, hplaces, hresult⟩ := ih
    refine ⟨.before gap token cut, ?_, ?_, ?_⟩
    · rw [Cut.fill, hsource, id]
    · rw [Cut.places, hplaces]
      rfl
    · rw [Cut.fill, hresult, hf token value hmem]

lemma Keeps.places {taken' kept' : List Span} (h : Keeps s taken pairs kept)
    (h' : Keeps s taken' pairs' kept') (htokens : pairs.map Prod.fst = pairs'.map Prod.fst)
    (htaken : taken.map place = taken'.map place) : kept.map place = kept'.map place := by
  induction h generalizing taken' pairs' kept' with
  | done =>
    cases h' with
    | done => exact htaken
    | idle => cases htokens
    | turn => cases htokens
  | idle _ ih =>
    cases h' with
    | done => cases htokens
    | idle hrest => exact ih hrest (List.cons.inj htokens).2 htaken
    | turn hne => exact absurd (List.cons.inj htokens).1.symm hne
  | @turn taken kept token value rest starts hne hscan _ ih =>
    cases h' with
    | done => cases htokens
    | idle => exact absurd (List.cons.inj htokens).1 hne
    | @turn _ _ token' value' _ starts' _ hscan' hrest =>
      obtain ⟨htoken, hrests⟩ := List.cons.inj htokens
      obtain rfl : token = token' := htoken
      obtain rfl := hscan.unique hscan'
      refine ih hrest hrests ?_
      have hfree : ((fun span => decide (∀ other ∈ taken, span.Apart other)) ∘ ofToken token value) =
          ((fun span => decide (∀ other ∈ taken', span.Apart other)) ∘ ofToken token value') := by
        funext start
        apply decide_eq_decide.mpr
        exact ⟨forall_apart_of_places htaken rfl, forall_apart_of_places htaken.symm rfl⟩
      rw [List.map_append, List.map_append, htaken, List.filter_map, List.filter_map, hfree,
        List.map_map, List.map_map, place_ofToken token value value']

lemma places_spans (htokens : set.tokens = set'.tokens) (s : List Char) :
    (set.spans s).map place = (set'.spans s).map place := by
  have hclaims := (keeps_claims set s).places (keeps_claims set' s) htokens rfl
  have hsorted : ∀ set : ReplacementSet, (set.spans s).map place =
      ((set.claims s).map place).mergeSort fun a b => a.1 ≤ b.1 := by
    intro set
    exact List.map_mergeSort fun _ _ _ _ => rfl
  rw [hsorted, hsorted, hclaims]

/-- What stands for a token: what is looked up for it, and else the token itself. -/
def filling (set : ReplacementSet) (token : String) : String := (set.value? token).getD token

lemma filling_eq (h : set.value? token = some value) : set.filling token = value := by
  rw [filling, h, Option.getD_some]

lemma tokens_override (set : ReplacementSet) (token value : String) :
    (set.override token value).tokens = set.tokens := by
  obtain ⟨pairs⟩ := set
  simp only [tokens, override]
  induction pairs with
  | nil => rfl
  | cons pair pairs ih =>
    rw [overrideFirst]
    split
    · rfl
    · rw [List.map_cons, List.map_cons, ih]

lemma override_of_notMem (h : literal token ∉ set.tokens) : set.override token value = set := by
  obtain ⟨pairs⟩ := set
  simp only [tokens, override, mk.injEq] at h ⊢
  induction pairs with
  | nil => rfl
  | cons pair pairs ih =>
    rw [List.map_cons, List.mem_cons, not_or] at h
    rw [overrideFirst, if_neg (Ne.symm h.1), ih h.2]

lemma value?_override (set : ReplacementSet) (token value other : String) :
    (set.override token value).value? other =
      if other = literal token then (set.value? other).map fun _ => literal value
      else set.value? other := by
  obtain ⟨pairs⟩ := set
  simp only [value?, override]
  induction pairs with
  | nil => simp [overrideFirst]
  | cons pair pairs ih =>
    obtain ⟨first, held⟩ := pair
    rw [overrideFirst]
    by_cases hfirst : first = literal token
    · rw [if_pos hfirst]
      by_cases hother : other = first
      · simp [hother, hfirst]
      · have hne : other ≠ literal token := hfirst ▸ hother
        have hskips : (other == first) = false := beq_eq_false_iff_ne.mpr hother
        rw [if_neg hne, List.lookup_cons, List.lookup_cons, hskips]
    · rw [if_neg hfirst]
      by_cases hother : other = first
      · simp [hother, hfirst]
      · have hskips : (other == first) = false := beq_eq_false_iff_ne.mpr hother
        rw [List.lookup_cons, List.lookup_cons, hskips]
        exact ih

lemma update_filling_eq {other held : String}
    (h : (set.override token value).value? other = some held) :
    Function.update set.filling (literal token) (literal value) other = held := by
  rw [value?_override] at h
  by_cases hother : other = literal token
  · rw [if_pos hother] at h
    obtain ⟨_, _, rfl⟩ := Option.map_eq_some_iff.mp h
    rw [hother, Function.update_self]
  · rw [if_neg hother] at h
    rw [Function.update_of_ne hother, filling_eq h]

lemma exists_describes {f : String → String}
    (hf : ∀ token value, set.value? token = some value → f token = value) (text : String) :
    ∃ cut : Cut, cut.Describes set f text := by
  obtain ⟨cut, hsource, hplaces, hresult⟩ :=
    (decomposes_found set text).exists_cut fun token value hmem => hf token value (mem_found.mp hmem)
  exact ⟨cut, hsource, hplaces, hresult.symm⟩

lemma exists_shared_cut {f f' : String → String} (htokens : set.tokens = set'.tokens)
    (hf : ∀ token value, set.value? token = some value → f token = value)
    (hf' : ∀ token value, set'.value? token = some value → f' token = value) (text : String) :
    ∃ cut : Cut, cut.Describes set f text ∧ cut.Describes set' f' text := by
  obtain ⟨cut, hcut⟩ := exists_describes hf text
  obtain ⟨cut', hcut'⟩ := exists_describes hf' text
  obtain rfl := hcut.unique hcut' (places_spans htokens _)
  exact ⟨cut, hcut, hcut'⟩

/-- Sets with the same tokens fill one cut of the text with their values. An override fills the cut
of its base, with the other value wherever its token stands, and the base stays what it is. -/
theorem override_local (text : String) :
    (∀ set set' : ReplacementSet, set.tokens = set'.tokens →
      ∃ cut : Cut, cut.Describes set set.filling text ∧ cut.Describes set' set'.filling text) ∧
    ∀ (base : ReplacementSet) (token value : String),
      (∃ cut : Cut, cut.Describes base base.filling text ∧
        cut.Describes (base.override token value)
          (Function.update base.filling (literal token) (literal value)) text) ∧
      (literal token ∉ base.tokens → (base.override token value).apply text = base.apply text) := by
  refine ⟨?_, ?_⟩
  · intro set set' htokens
    exact exists_shared_cut htokens (fun _ _ => filling_eq) (fun _ _ => filling_eq) text
  · intro base token value
    have htokens := (tokens_override base token value).symm
    refine ⟨?_, ?_⟩
    · exact exists_shared_cut htokens (fun _ _ => filling_eq) (fun _ _ => update_filling_eq) text
    · intro habsent
      rw [override_of_notMem habsent]

def crossed : ReplacementSet := ⟨[("\"A\"", "\"1\""), ("\"B\"", "\"A\""), ("\"A\"", "\"2\"")]⟩

theorem override_local_crossed :
    (crossed.tokens = (crossed.override "A" "B").tokens ∧
      ∃ cut : Cut, cut.Describes crossed crossed.filling "\"A\"B\"A\"" ∧
        cut.Describes (crossed.override "A" "B") (crossed.override "A" "B").filling
          "\"A\"B\"A\"") ∧
      (literal "C" ∉ crossed.tokens ∧
        (crossed.override "C" "B").apply "\"A\"B\"A\"" = crossed.apply "\"A\"B\"A\"") ∧
      (crossed.override "A" "B").apply "\"A\"B\"A\"" = "\"B\"B\"B\"" := by
  have htokens := (tokens_override crossed "A" "B").symm
  have habsent : literal "C" ∉ crossed.tokens := by decide
  refine ⟨⟨htokens, ?_⟩, ⟨habsent, ?_⟩, by cbv⟩
  · exact (override_local _).1 _ _ htokens
  · exact ((override_local _).2 _ _ _).2 habsent

end ReplacementSet

end DeployForge
