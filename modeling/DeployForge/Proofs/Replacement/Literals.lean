import DeployForge.Profile
import DeployForge.Proofs.Replacement.Repeats
import DeployForge.Proofs.Text.Pieces
import Mathlib.Data.Set.Defs

namespace DeployForge

variable {s t : List Char} {entries : List ProfileEntry} {lookup : String → Option String}
  {pairs : List (String × String)} {spans : List Span} {token value : String} {start i j : ℕ}

section Tokens

def quotePieces (text : String) : List (List Char) := Text.splitAt '"' text.toList

def ProfileEntry.firstNamed? (entries : List ProfileEntry) (piece : List Char) :
    Option ProfileEntry :=
  entries.find? (·.token.toList = piece)

def IsToken (entries : List ProfileEntry) (piece : List Char) : Prop :=
  ∃ entry ∈ entries, entry.token.toList = piece

/-- The pieces `after` are those `before`, with tokens at the indices in `R` exchanged for the value
of their first entry. -/
structure ExchangesTokens (lookup : String → Option String) (entries : List ProfileEntry)
    (R : Set ℕ) (before after : List (List Char)) : Prop where
  length : after.length = before.length
  inside : ∀ i ∈ R, 0 < i ∧ i + 1 < before.length
  apart : ∀ i ∈ R, i + 1 ∉ R
  kept : ∀ i ∉ R, after[i]? = before[i]?
  exchanged : ∀ i ∈ R, ∃ entry, before[i]? = some entry.token.toList ∧
    ProfileEntry.firstNamed? entries entry.token.toList = some entry ∧
    after[i]? = some (entry.resolve lookup).toList
  lone : ∀ i piece left right, before[i]? = some left → before[i + 1]? = some piece →
    before[i + 2]? = some right → IsToken entries piece → ¬ IsToken entries left →
    ¬ IsToken entries right → i + 1 ∈ R

end Tokens

@[simp] lemma toList_literal (s : String) : (literal s).toList = '"' :: (s.toList ++ ['"']) := by
  simp [literal]

lemma literal_inj {s t : String} : literal s = literal t ↔ s = t := by
  rw [← String.toList_inj, ← String.toList_inj]
  simp

lemma literal_ne_empty (s : String) : literal s ≠ "" := by
  rw [← String.toList_inj.ne]
  simp

/-- A piece of a text, or the token in its place and what the token is exchanged for. -/
inductive Piece where
  | kept (piece : List Char)
  | exchanged (token value : String)

namespace Piece

variable {pieces rest : List Piece} {gap : List (List Char)}

def before : Piece → List Char
  | kept piece => piece
  | exchanged token _ => token.toList

def after : Piece → List Char
  | kept piece => piece
  | exchanged _ value => value.toList

inductive Parted : List Piece → Prop
  | last {piece : List Char} : Parted [kept piece]
  | kept {piece : List Char} {rest : List Piece} : Parted rest → Parted (kept piece :: rest)
  | exchanged {piece : List Char} {token value : String} {rest : List Piece} :
      Parted rest → Parted (.kept piece :: exchanged token value :: rest)

namespace Parted

lemma of_gap (hne : gap ≠ []) : Parted (gap.map .kept) := by
  induction gap with
  | nil => exact absurd rfl hne
  | cons piece gap ih =>
    cases gap with
    | nil => exact .last
    | cons next gap => exact .kept (ih (List.cons_ne_nil _ _))

lemma behind_gap (hne : gap ≠ []) (h : Parted rest) :
    Parted (gap.map .kept ++ .exchanged token value :: rest) := by
  induction gap with
  | nil => exact absurd rfl hne
  | cons piece gap ih =>
    cases gap with
    | nil => exact .exchanged h
    | cons next gap => exact .kept (ih (List.cons_ne_nil _ _))

lemma length_pos (h : Parted pieces) : 0 < pieces.length := by
  cases h <;> simp

lemma inside (h : Parted pieces) (hi : pieces[i]? = some (.exchanged token value)) :
    0 < i ∧ i + 1 < pieces.length := by
  induction h generalizing i with
  | last => cases i <;> simp at hi
  | kept _ ih =>
    cases i with
    | zero => simp at hi
    | succ i =>
      have hlast := (ih hi).2
      exact ⟨Nat.succ_pos i, Nat.succ_lt_succ hlast⟩
  | exchanged h ih =>
    match i with
    | 0 => simp at hi
    | 1 => exact ⟨Nat.one_pos, Nat.add_lt_add_right h.length_pos 2⟩
    | i + 2 =>
      have hlast := (ih hi).2
      exact ⟨Nat.succ_pos _, Nat.add_lt_add_right hlast 2⟩

lemma apart {token' value' : String} (h : Parted pieces)
    (hi : pieces[i]? = some (.exchanged token value)) :
    pieces[i + 1]? ≠ some (.exchanged token' value') := by
  induction h generalizing i with
  | last => cases i <;> simp at hi
  | kept _ ih =>
    cases i with
    | zero => simp at hi
    | succ i => exact ih hi
  | exchanged h ih =>
    match i with
    | 0 => simp at hi
    | 1 =>
      intro hnext
      exact Nat.lt_irrefl 0 (h.inside hnext).1
    | i + 2 => exact ih hi

end Parted

end Piece

namespace ReplacementSet

open DeployForge.Span

def AreLiterals (pairs : List (String × String)) : Prop :=
  ∀ pair ∈ pairs, ∃ token value, pair = (literal token, literal value) ∧ '"' ∉ token.toList ∧
    '"' ∉ value.toList

/-- The pieces that `s`, which begins at `start`, and `t` have between their quotes, where `t` holds
other literals at these spans. -/
structure Spells (pairs : List (String × String)) (start : ℕ) (spans : List Span)
    (s t : List Char) (pieces : List Piece) : Prop where
  parted : Piece.Parted pieces
  before : pieces.map Piece.before = Text.splitAt '"' s
  after : pieces.map Piece.after = Text.splitAt '"' t
  ofPairs : ∀ token value, .exchanged token value ∈ pieces →
    (literal token, literal value) ∈ pairs
  marked : ∀ span ∈ spans, ∃ i token value, pieces[i]? = some (.exchanged token value) ∧
    span.start + 1 = start + Text.pieceStart (Text.splitAt '"' s) i ∧
    span.stop = span.start + (literal token).toList.length

lemma splitAt_literal {token : String} (htoken : '"' ∉ token.toList) (gap s : List Char) :
    Text.splitAt '"' (gap ++ (literal token).toList ++ s) =
      Text.splitAt '"' gap ++ token.toList :: Text.splitAt '"' s := by
  have htext : gap ++ (literal token).toList ++ s = gap ++ '"' :: (token.toList ++ '"' :: s) := by
    simp
  rw [htext, Text.splitAt_append_separator, Text.splitAt_piece htoken]

lemma map_before_kept (gap : List (List Char)) : (gap.map Piece.kept).map Piece.before = gap := by
  simp [Function.comp_def, Piece.before]

lemma map_after_kept (gap : List (List Char)) : (gap.map Piece.kept).map Piece.after = gap := by
  simp [Function.comp_def, Piece.after]

lemma Decomposes.exists_spells (h : Decomposes pairs start spans s t)
    (hliterals : AreLiterals pairs) : ∃ pieces, Spells pairs start spans s t pieces := by
  induction h with
  | @rest start gap =>
    refine ⟨(Text.splitAt '"' gap).map .kept, .of_gap (Text.splitAt_ne_nil _ _), map_before_kept _,
      map_after_kept _, ?_, List.forall_mem_nil _⟩
    intro token value hmem
    simp at hmem
  | @span start gap s t token value spans hmem _ _ ih =>
    obtain ⟨pieces, hspells⟩ := ih
    obtain ⟨token, value, hpair, htoken, hvalue⟩ := hliterals _ hmem
    obtain ⟨rfl, rfl⟩ := Prod.mk.inj hpair
    have hlength : (literal token).toList.length = token.toList.length + 2 := by simp
    refine ⟨(Text.splitAt '"' gap).map .kept ++ .exchanged token value :: pieces,
      .behind_gap (Text.splitAt_ne_nil _ _) hspells.parted, ?_, ?_, ?_, ?_⟩
    · rw [splitAt_literal htoken, List.map_append, map_before_kept, List.map_cons, hspells.before]
      rfl
    · rw [splitAt_literal hvalue, List.map_append, map_after_kept, List.map_cons, hspells.after]
      rfl
    · intro token' value' hpiece
      rw [List.mem_append, List.mem_cons] at hpiece
      rcases hpiece with hgap | heq | hrest
      · simp at hgap
      · cases heq
        exact hmem
      · exact hspells.ofPairs _ _ hrest
    · rw [splitAt_literal htoken]
      intro span hspan
      rcases List.mem_cons.mp hspan with rfl | hspan
      · refine ⟨(Text.splitAt '"' gap).length + 0, token, value, ?_, ?_, rfl⟩
        · rw [List.getElem?_append_right (by simp)]
          simp
        · rw [Text.pieceStart_append]
          simp [ofToken, Text.pieceStart, Nat.add_assoc]
      · obtain ⟨i, token', value', hi, hstart, hstop⟩ := hspells.marked span hspan
        refine ⟨(Text.splitAt '"' gap).length + (i + 1), token', value', ?_, ?_, hstop⟩
        · rw [List.getElem?_append_right (by simp)]
          simpa using hi
        · rw [Text.pieceStart_append, Text.pieceStart_cons]
          omega

lemma firstNamed?_toList (entries : List ProfileEntry) (token : String) :
    ProfileEntry.firstNamed? entries token.toList = entries.find? (·.token = token) := by
  simp only [ProfileEntry.firstNamed?, String.toList_inj]

lemma value?_ofEntries (lookup : String → Option String) (entries : List ProfileEntry)
    (token : String) :
    (ofEntries lookup entries).value? (literal token) =
      (ProfileEntry.firstNamed? entries token.toList).map fun entry =>
        literal (entry.resolve lookup) := by
  rw [firstNamed?_toList, value?, ofEntries]
  induction entries with
  | nil => rfl
  | cons entry entries ih =>
    rw [List.map_cons]
    by_cases htoken : entry.token = token
    · rw [List.find?_cons_of_pos (by simpa using htoken), ← htoken, List.lookup_cons_self]
      rfl
    · have hskips : (literal token == literal entry.token) = false :=
        beq_eq_false_iff_ne.mpr fun heq => htoken (literal_inj.mp heq).symm
      rw [List.find?_cons_of_neg (by simpa using htoken), List.lookup_cons, hskips]
      exact ih

lemma firstNamed?_of_mem_found
    (h : (literal token, literal value) ∈ (ofEntries lookup entries).found) :
    ∃ entry, ProfileEntry.firstNamed? entries token.toList = some entry ∧ entry.token = token ∧
      entry.resolve lookup = value := by
  rw [mem_found, value?_ofEntries] at h
  obtain ⟨entry, hfirst, hvalue⟩ := Option.map_eq_some_iff.mp h
  have hnamed : entry.token.toList = token.toList := by simpa using List.find?_some hfirst
  exact ⟨entry, hfirst, String.toList_inj.mp hnamed, literal_inj.mp hvalue⟩

def ArePlain (lookup : String → Option String) (entries : List ProfileEntry) : Prop :=
  ∀ entry ∈ entries, '"' ∉ entry.token.toList ∧ '"' ∉ (entry.resolve lookup).toList

instance : Decidable (ArePlain lookup entries) := inferInstanceAs (Decidable (∀ _ ∈ _, _))

section Exchange

variable (hplain : ArePlain lookup entries)

include hplain

lemma areLiterals_ofEntries : AreLiterals (ofEntries lookup entries).pairs := by
  intro pair hpair
  obtain ⟨entry, hentry, rfl⟩ := List.mem_map.mp hpair
  exact ⟨entry.token, entry.resolve lookup, rfl, hplain entry hentry⟩

lemma exists_isToken_piece (hmem : (token, value) ∈ (ofEntries lookup entries).pairs)
    (hstands : token.toList <+: s.drop start) :
    ∃ i piece, (Text.splitAt '"' s)[i]? = some piece ∧ IsToken entries piece ∧
      Text.pieceStart (Text.splitAt '"' s) i = start + 1 ∧
      Text.pieceStart (Text.splitAt '"' s) (i + 1) = start + token.toList.length := by
  obtain ⟨entry, hentry, hpair⟩ := List.mem_map.mp hmem
  obtain ⟨rfl, rfl⟩ := Prod.mk.inj hpair
  rw [toList_literal] at hstands
  obtain ⟨i, hpiece, _, _, hstart⟩ := Text.exists_piece (hplain entry hentry).1 hstands
  refine ⟨i, _, hpiece, ⟨entry, hentry, rfl⟩, hstart, ?_⟩
  rw [Text.pieceStart_succ hpiece, hstart, toList_literal]
  simp only [List.length_cons, List.length_append, List.length_nil]
  omega

lemma exists_span_of_lone {piece left right : List Char}
    (hleft : (Text.splitAt '"' s)[i]? = some left)
    (hpiece : (Text.splitAt '"' s)[i + 1]? = some piece)
    (hright : (Text.splitAt '"' s)[i + 2]? = some right) (htoken : IsToken entries piece)
    (hnotLeft : ¬ IsToken entries left) (hnotRight : ¬ IsToken entries right) :
    ∃ span ∈ (ofEntries lookup entries).spans s,
      Text.pieceStart (Text.splitAt '"' s) (i + 1) = span.start + 1 := by
  obtain ⟨entry, hentry, rfl⟩ := htoken
  obtain ⟨hlast, _⟩ := List.getElem?_eq_some_iff.mp hright
  obtain ⟨k, hk, hstands⟩ := Text.stands_of_piece hpiece (Nat.succ_pos i) hlast
  have hend : Text.pieceStart (Text.splitAt '"' s) (i + 2) = _ := Text.pieceStart_succ hpiece
  rw [← toList_literal] at hstands
  have hof : (ofToken (literal entry.token) (literal (entry.resolve lookup)) k).IsOf
      (ofEntries lookup entries).pairs s :=
    ⟨_, _, List.mem_map.mpr ⟨entry, hentry, rfl⟩, literal_ne_empty _, rfl, hstands⟩
  rcases touches_or_isPassedOver hof with ⟨other, hother, htouches⟩ | hpassed
  · obtain ⟨token, value, hmem, _, heq, hfound⟩ := isOf_claims _ s other hother
    obtain ⟨j, piece', hpiece', htoken', hstart, hstop⟩ := exists_isToken_piece hplain hmem hfound
    have hlength : other.stop = other.start + token.toList.length := congrArg Span.stop heq
    obtain ⟨hj, _⟩ := List.getElem?_eq_some_iff.mp hpiece'
    simp only [Apart, ofToken, toList_literal, List.length_cons, List.length_append,
      List.length_nil, not_or, Nat.not_le] at htouches
    have hbegins : Text.pieceStart (Text.splitAt '"' s) j ≤
        Text.pieceStart (Text.splitAt '"' s) (i + 2) := by omega
    have hends : Text.pieceStart (Text.splitAt '"' s) (i + 1) ≤
        Text.pieceStart (Text.splitAt '"' s) (j + 1) := by omega
    have hle := Text.le_of_pieceStart_le hj hbegins
    have hge := Text.le_of_pieceStart_le (by omega) hends
    -- The two literals share a quote at least, so they stand in the same place or side by side.
    rcases (by omega : j = i ∨ j = i + 1 ∨ j = i + 2) with rfl | rfl | rfl
    · rw [hleft, Option.some_inj] at hpiece'
      exact absurd (hpiece' ▸ htoken') hnotLeft
    · exact ⟨other, (spans_perm _ s).mem_iff.mpr hother, hstart⟩
    · rw [hright, Option.some_inj] at hpiece'
      exact absurd (hpiece' ▸ htoken') hnotRight
  · obtain ⟨early, token, value, late, start, hpairs, _, hstart, hbefore, hreach, _⟩ := hpassed
    have hmem : (token, value) ∈ (ofEntries lookup entries).pairs := by simp [hpairs]
    obtain ⟨_, _, hpair, _⟩ := areLiterals_ofEntries hplain _ hmem
    have hne : token ≠ "" := (Prod.mk.inj hpair).1 ▸ literal_ne_empty _
    have hfound := (scan_token hne s).isPrefix start hstart
    obtain ⟨j, piece', hpiece', htoken', hbegin, hstop⟩ := exists_isToken_piece hplain hmem hfound
    simp only [ofToken] at hbefore hreach
    rw [Nat.sub_zero] at hbegin hstop
    have hends : Text.pieceStart (Text.splitAt '"' s) (i + 1) ≤
        Text.pieceStart (Text.splitAt '"' s) (j + 1) := by omega
    have hge := Text.le_of_pieceStart_le (by omega) hends
    have hlt : ¬ i + 1 ≤ j := by
      intro hle
      have hmono := Text.pieceStart_mono (Text.splitAt '"' s) hle
      omega
    obtain rfl : j = i := by omega
    rw [hleft, Option.some_inj] at hpiece'
    exact absurd (hpiece' ▸ htoken') hnotLeft

end Exchange

/-- The profile exchanges whole literals: no quote comes or goes, and a token that is only a part of
a literal stays. -/
theorem literals_exchanged (lookup : String → Option String) (entries : List ProfileEntry)
    (hplain : ArePlain lookup entries) (text : String) :
    ∃ R : Set ℕ, ExchangesTokens lookup entries R (quotePieces text)
      (quotePieces ((ofEntries lookup entries).apply text)) := by
  have hfound : AreLiterals (ofEntries lookup entries).found := fun pair hpair =>
    areLiterals_ofEntries hplain pair (List.mem_of_mem_filter hpair)
  obtain ⟨pieces, hspells⟩ := (decomposes_found _ text).exists_spells hfound
  have hbefore : quotePieces text = pieces.map Piece.before := hspells.before.symm
  have hafter : quotePieces ((ofEntries lookup entries).apply text) = pieces.map Piece.after :=
    hspells.after.symm
  refine ⟨{i | ∃ token value, pieces[i]? = some (.exchanged token value)}, ?_⟩
  rw [hafter]
  constructor
  case length => rw [hbefore, List.length_map, List.length_map]
  case inside =>
    rintro i ⟨token, value, hi⟩
    rw [hbefore, List.length_map]
    exact hspells.parted.inside hi
  case apart =>
    rintro i ⟨token, value, hi⟩ ⟨token', value', hnext⟩
    exact hspells.parted.apart hi hnext
  case kept =>
    intro i hi
    rw [hbefore, List.getElem?_map, List.getElem?_map]
    cases hpiece : pieces[i]? with
    | none => rfl
    | some piece =>
      cases piece with
      | kept => rfl
      | exchanged token value => exact absurd ⟨token, value, hpiece⟩ hi
  case exchanged =>
    rintro i ⟨token, value, hi⟩
    obtain ⟨entry, hfirst, rfl, rfl⟩ :=
      firstNamed?_of_mem_found (hspells.ofPairs _ _ (List.mem_of_getElem? hi))
    rw [hbefore, List.getElem?_map, List.getElem?_map, hi]
    exact ⟨entry, rfl, hfirst, rfl⟩
  case lone =>
    intro i piece left right hleft hpiece hright htoken hnotLeft hnotRight
    obtain ⟨span, hspan, hstart⟩ :=
      exists_span_of_lone hplain hleft hpiece hright htoken hnotLeft hnotRight
    obtain ⟨j, token, value, hj, hplace, _⟩ := hspells.marked span hspan
    rw [Nat.zero_add, ← hstart] at hplace
    obtain ⟨hi, _⟩ := List.getElem?_eq_some_iff.mp hpiece
    obtain ⟨hj', _⟩ := List.getElem?_eq_some_iff.mp hj
    rw [← List.length_map Piece.before, ← hbefore] at hj'
    have hle : i + 1 ≤ j := Text.le_of_pieceStart_le hi (Nat.le_of_eq hplace)
    have hge : j ≤ i + 1 := Text.le_of_pieceStart_le hj' (Nat.le_of_eq hplace.symm)
    obtain rfl := Nat.le_antisymm hle hge
    exact ⟨token, value, hj⟩

def motley : List ProfileEntry :=
  [⟨"A", some "1", none⟩, ⟨"", some "0", none⟩, ⟨"B", none, some "UNSET"⟩, ⟨"A", some "2", none⟩]

theorem literals_exchanged_motley :
    ArePlain (fun _ => none) motley ∧
      (∃ R : Set ℕ, ExchangesTokens (fun _ => none) motley R (quotePieces "\"X_A\" \"B\"A\"\"\"")
        (quotePieces ((ofEntries (fun _ => none) motley).apply "\"X_A\" \"B\"A\"\"\""))) ∧
      (ofEntries (fun _ => none) motley).apply "\"X_A\" \"B\"A\"\"\"" = "\"X_A\" \"B\"1\"\"\"" := by
  have hplain : ArePlain (fun _ => none) motley := by decide
  exact ⟨hplain, literals_exchanged _ _ hplain _, by cbv⟩

end ReplacementSet

end DeployForge
