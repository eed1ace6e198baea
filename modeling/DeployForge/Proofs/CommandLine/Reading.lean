import DeployForge.CommandLine.Arguments
import DeployForge.Proofs.Outcome

namespace DeployForge.CommandLine

inductive Scans (g : Grammar) : Bool → Reading → List String → Reading → Prop
  | done {r} : Scans g false r [] r
  | value {r r₁ r' arg rest} : Shape.ofChars arg.toList ≠ .dashes →
      Shape.ofChars arg.toList = .word ∨ g.knows (Shape.ofChars arg.toList) = false →
      r.inProject arg.toList = .ok r₁ → Scans g false r₁ rest r' →
      Scans g true r (arg :: rest) r'
  | dashes {r r' arg rest} : Shape.ofChars arg.toList = .dashes →
      g.trailing r rest = .ok r' → Scans g false r (arg :: rest) r'
  | word {r r' arg rest} : Shape.ofChars arg.toList = .word → r.words.length < g.words →
      Scans g false { r with words := r.words ++ [arg] } rest r' → Scans g false r (arg :: rest) r'
  | forwards {r arg rest} : g.tail = .forwarded →
      Scans g false r (arg :: rest) { r with rest := arg :: rest }
  | option {r r₁ r' arg rest expects} : Shape.ofChars arg.toList ≠ .dashes →
      g.option r (Shape.ofChars arg.toList) = .ok (r₁, expects) →
      Scans g expects r₁ rest r' → Scans g false r (arg :: rest) r'

variable {g : Grammar} {r r₁ r' : Reading} {args rest : List String} {arg name : String}
  {expects expects' : Bool} {shape : Shape} {now later : String → Prop}

structure IsLong (name : String) : Prop where
  shape_eq : Shape.ofChars ("--" ++ name).toList = .long name none
  ne_verbose : name ≠ "verbose"
  ne_project : name ≠ "project"

instance : Decidable (IsLong name) :=
  decidable_of_iff
    (Shape.ofChars ("--" ++ name).toList = .long name none ∧ name ≠ "verbose" ∧ name ≠ "project")
    ⟨fun ⟨h₁, h₂, h₃⟩ => ⟨h₁, h₂, h₃⟩, fun ⟨h₁, h₂, h₃⟩ => ⟨h₁, h₂, h₃⟩⟩

section Shapes

lemma shape_dashes_iff : Shape.ofChars arg.toList = .dashes ↔ arg = "--" := by
  constructor
  · rw [← String.toList_inj]
    generalize arg.toList = cs
    intro h
    rw [Shape.ofChars.eq_def] at h
    split at h
    · rfl
    · simp only at h
      split at h <;> cases h
    · cases h
    · cases h
  · rintro rfl
    rfl

lemma eq_of_shape_long (h : Shape.ofChars arg.toList = .long name none) : arg = "--" ++ name := by
  rw [← String.toList_inj, String.toList_append]
  generalize arg.toList = cs at h
  rw [Shape.ofChars.eq_def] at h
  split at h
  · cases h
  · next s _ =>
    simp only at h
    split at h
    · cases h
    · next hdrop =>
      obtain ⟨rfl, _⟩ := Shape.long.inj h
      rw [List.drop_eq_nil_iff] at hdrop
      have hname : (String.ofList (s.takeWhile (· ≠ '='))).toList = s := by
        rw [String.toList_ofList]
        exact (List.takeWhile_prefix _).eq_of_length_le hdrop
      rw [hname]
      rfl
  · cases h
  · cases h

lemma IsLong.shape_iff (h : IsLong name) :
    Shape.ofChars arg.toList = .long name none ↔ arg = "--" ++ name :=
  ⟨eq_of_shape_long, fun harg => harg ▸ h.shape_eq⟩

structure IsOther (arg : String) : Prop where
  not_dashes : arg ≠ "--"
  not_long : ∀ {name}, IsLong name → arg ≠ "--" ++ name

lemma isOther_of_word (h : Shape.ofChars arg.toList = .word) : IsOther arg where
  not_dashes harg := by cases (shape_dashes_iff.mpr harg).symm.trans h
  not_long hname harg := by cases (hname.shape_iff.mpr harg).symm.trans h

end Shapes

section Steps

def never : String → Prop := fun _ => False

/-- The words and what is passed on stay as they are, and a name is that of a flag afterwards if it
was or comes in `now`. -/
structure Reads (now : String → Prop) (r r' : Reading) : Prop where
  words_eq : r'.words = r.words
  rest_eq : r'.rest = r.rest
  has_iff : ∀ {name}, IsLong name → (r'.has name = true ↔ r.has name = true ∨ now name)

lemma Reads.refl (r : Reading) : Reads never r r := ⟨rfl, rfl, by simp [never]⟩

lemma Reads.trans (h : Reads now r r₁) (h' : Reads later r₁ r') :
    Reads (fun name => now name ∨ later name) r r' where
  words_eq := h'.words_eq.trans h.words_eq
  rest_eq := h'.rest_eq.trans h.rest_eq
  has_iff hname := by rw [h'.has_iff hname, h.has_iff hname, or_assoc]

lemma Reads.congr (h : Reads now r r') (hnow : ∀ {name}, IsLong name → (now name ↔ later name)) :
    Reads later r r' :=
  ⟨h.words_eq, h.rest_eq, fun hname => by rw [h.has_iff hname, hnow hname]⟩

lemma reads_of_inProject {dir : List Char} (h : r.inProject dir = .ok r') : Reads never r r' := by
  rw [Reading.inProject] at h
  split at h
  · cases h
  · cases h
    exact ⟨rfl, rfl, by simp [Reading.has, never]⟩

lemma reads_of_value {dir : List Char}
    (h : (do return (← r.inProject dir, false)) = Except.ok (r', expects)) :
    Reads never r r' := by
  obtain ⟨r₁, hdir, h⟩ := bind_eq_ok.mp h
  cases h
  exact reads_of_inProject hdir

lemma reads_of_flag {added : String} (h : r.flag added = .ok r') : Reads (· = added) r r' := by
  rw [Reading.flag] at h
  split at h
  · cases h
  split at h
  · cases h
  split at h
  · cases h
  · cases h
    exact ⟨rfl, rfl, by simp [Reading.has, or_comm]⟩

lemma flag_ok_ne {added : String} (h : r.flag added = .ok r') :
    added ≠ "help" ∧ added ≠ "version" := by
  constructor
  · rintro rfl
    cases h
  · rintro rfl
    cases h

lemma letter_cases {c : Char} (h : g.letter? c = some name) :
    name = "help" ∨ name = "verbose" ∨ name = "version" := by
  rw [Grammar.letter?] at h
  split at h
  · exact .inl (Option.some.inj h).symm
  split at h
  · exact .inr (.inl (Option.some.inj h).symm)
  split at h
  · exact .inr (.inr (Option.some.inj h).symm)
  · cases h

lemma reads_of_letters {s : List Char} (h : g.letters r s = .ok (r', expects)) :
    Reads never r r' := by
  fun_induction Grammar.letters g r s with
  | case1 r =>
    cases h
    exact .refl r'
  | case2 r =>
    cases h
    exact .refl r'
  | case3 r dir => exact reads_of_value h
  | case4 r dir => exact reads_of_value h
  | case5 r c s _ added hletter ih =>
    obtain ⟨r₁, hflag, h⟩ := bind_eq_ok.mp h
    have hne {name : String} (hname : IsLong name) : name ≠ added := by
      rcases letter_cases hletter with rfl | rfl | rfl
      · exact absurd rfl (flag_ok_ne hflag).1
      · exact hname.ne_verbose
      · exact absurd rfl (flag_ok_ne hflag).2
    exact ((reads_of_flag hflag).trans (ih r₁ h)).congr fun hname => by simp [hne hname, never]
  | case6 => cases h

lemma reads_of_option (h : g.option r shape = .ok (r', expects)) :
    Reads (fun name => g.isFlag name ∧ shape = .long name none) r r' := by
  cases shape with
  | dashes => cases h
  | word => cases h
  | short letters => exact (reads_of_letters h).congr fun _ => by simp [never]
  | long added value? =>
    simp only [Grammar.option] at h
    split at h
    · next hproject =>
      have hnever {name : String} (hname : IsLong name) :
          ¬ (Shape.long added value? = .long name none) :=
        fun hshape => hname.ne_project ((Shape.long.inj hshape).1 ▸ hproject)
      have hreads : Reads never r r' := by
        split at h
        · exact reads_of_value h
        · cases h
          exact .refl _
      exact hreads.congr fun hname => by simp [hnever hname, never]
    · split at h
      · next hflag =>
        rw [Bool.and_eq_true, Option.isNone_iff_eq_none] at hflag
        obtain ⟨hadded, rfl⟩ := hflag
        obtain ⟨r₁, hflag, h⟩ := bind_eq_ok.mp h
        cases h
        refine (reads_of_flag hflag).congr fun {name} _ => ?_
        constructor
        · rintro rfl
          exact ⟨hadded, rfl⟩
        · rintro ⟨_, hshape⟩
          exact (Shape.long.inj hshape).1.symm
      · cases h

end Steps

section Scan

lemma scans_of_read (h : g.read expects r args = .ok r') : Scans g expects r args r' := by
  fun_induction Grammar.read g expects r args with
  | case1 => cases h
  | case2 r =>
    cases h
    exact .done
  | case3 => cases h
  | case4 r arg rest shape hword ih =>
    obtain ⟨r₁, hdir, h⟩ := bind_eq_ok.mp h
    exact .value (fun hdashes => by cases hword.symm.trans hdashes) (.inl hword) hdir (ih r₁ h)
  | case5 r arg rest shape forwards hforwards hdashes hword ih =>
    obtain ⟨r₁, hdir, h⟩ := bind_eq_ok.mp h
    have hknows : g.knows shape = false := by simpa using (Bool.and_eq_true_iff.mp hforwards).2
    exact .value hdashes (.inr hknows) hdir (ih r₁ h)
  | case6 => cases h
  | case7 r arg rest shape hdashes => exact .dashes hdashes h
  | case8 r arg rest shape hword hroom ih => exact .word hword hroom (ih h)
  | case9 r arg rest shape hword hfull htail =>
    cases h
    exact .forwards htail
  | case10 => cases h
  | case11 r arg rest shape forwards hforwards =>
    cases h
    have htail : g.tail = .forwarded := by
      have hboth := (Bool.and_eq_true_iff.mp hforwards).1
      exact of_decide_eq_true (Bool.and_eq_true_iff.mp hboth).1
    exact .forwards htail
  | case12 r arg rest shape forwards _ hdashes hword ih =>
    obtain ⟨⟨r₁, expects⟩, hoption, h⟩ := bind_eq_ok.mp h
    exact .option hdashes hoption (ih r₁ expects h)

lemma trailing_ok (h : g.trailing r args = .ok r') (hwords : r.words.length ≤ g.words) :
    r'.words.length ≤ g.words ∧ r'.rest <:+ args ∧ r'.flags = r.flags := by
  rw [Grammar.trailing] at h
  split at h
  · cases h
    exact ⟨hwords, List.suffix_rfl, rfl⟩
  · simp only at h
    split at h
    · cases h
    · cases h
      refine ⟨?_, List.drop_suffix .., rfl⟩
      rw [List.length_append, List.length_take]
      omega

/-- The flag `name` stands among the words before any two dashes. -/
def Given (name : String) (own : List String) : Prop := "--" ++ name ∈ own.takeWhile (· ≠ "--")

instance (own : List String) : Decidable (Given name own) := inferInstanceAs (Decidable (_ ∈ _))

lemma given_cons (harg : arg ≠ "--") (own : List String) :
    Given name (arg :: own) ↔ arg = "--" ++ name ∨ Given name own := by
  rw [Given, List.takeWhile_cons_of_pos (by simp [harg]), List.mem_cons, eq_comm, Given]

lemma not_given_dashes (own : List String) : ¬ Given name ("--" :: own) := by
  rw [Given, List.takeWhile_cons_of_neg (by simp)]
  exact List.not_mem_nil

/-- The words of a reading: its `own` ones and, behind them, what is passed on. -/
structure Taken (g : Grammar) (r : Reading) (args own : List String) (r' : Reading) : Prop where
  args_eq : args = own ++ r'.rest
  words_le : r'.words.length ≤ g.words
  has_iff : ∀ {name}, IsLong name →
    (r'.has name = true ↔ r.has name = true ∨ g.isFlag name ∧ Given name own)

lemma Taken.cons {own : List String} (h : Taken g r₁ rest own r') (harg : arg ≠ "--")
    (hstep : ∀ {name}, IsLong name →
      (r₁.has name = true ↔ r.has name = true ∨ g.isFlag name ∧ arg = "--" ++ name)) :
    Taken g r (arg :: rest) (arg :: own) r' where
  args_eq := by rw [h.args_eq]; rfl
  words_le := h.words_le
  has_iff hname := by rw [h.has_iff hname, hstep hname, given_cons harg, or_assoc, ← and_or_left]

lemma Scans.exists_own (h : Scans g expects r args r') (hrest : r.rest = [])
    (hwords : r.words.length ≤ g.words) : ∃ own, Taken g r args own r' := by
  induction h with
  | @done r => exact ⟨[], by rw [hrest]; rfl, hwords, by simp [Given]⟩
  | @value r r₁ r' arg rest hdashes hvalue hdir _ ih =>
    have hreads := reads_of_inProject hdir
    obtain ⟨own, htaken⟩ := ih (hreads.rest_eq.trans hrest) (hreads.words_eq ▸ hwords)
    refine ⟨arg :: own, htaken.cons (mt shape_dashes_iff.mpr hdashes) fun {name} hname => ?_⟩
    -- A flag is not taken for a directory.
    have hnone : ¬ (g.isFlag name ∧ arg = "--" ++ name) := by
      rintro ⟨hflag, harg⟩
      rw [hname.shape_iff.mpr harg] at hvalue
      rcases hvalue with hword | hknows
      · cases hword
      · simp [Grammar.knows, hflag] at hknows
    rw [hreads.has_iff hname]
    simp [hnone, never]
  | @dashes r r' arg rest hdashes htrailing =>
    obtain ⟨hle, ⟨taken, htaken⟩, hflags⟩ := trailing_ok htrailing hwords
    refine ⟨arg :: taken, by rw [← htaken]; rfl, hle, fun {name} _ => ?_⟩
    rw [shape_dashes_iff.mp hdashes]
    simp [not_given_dashes, Reading.has, hflags]
  | @word r r' arg rest hword hroom _ ih =>
    obtain ⟨own, htaken⟩ := ih hrest (by simpa using Nat.succ_le_of_lt hroom)
    have hother := isOther_of_word hword
    refine ⟨arg :: own, htaken.cons hother.not_dashes fun {name} hname => ?_⟩
    simp [Reading.has, hother.not_long hname]
  | @forwards r arg rest => exact ⟨[], rfl, hwords, by simp [Given, Reading.has]⟩
  | @option r r₁ r' arg rest expects hdashes hoption _ ih =>
    have hreads := reads_of_option hoption
    obtain ⟨own, htaken⟩ := ih (hreads.rest_eq.trans hrest) (hreads.words_eq ▸ hwords)
    refine ⟨arg :: own, htaken.cons (mt shape_dashes_iff.mpr hdashes) fun {name} hname => ?_⟩
    rw [hreads.has_iff hname, hname.shape_iff]

end Scan

section Invocations

variable {i : Invocation} {before own : List String}

lemma given_append (hname : IsLong name) (hbefore : ∀ a ∈ before, IsOther a) :
    Given name (before ++ own) ↔ Given name own := by
  induction before with
  | nil => rfl
  | cons arg before ih =>
    obtain ⟨harg, hbefore⟩ := List.forall_mem_cons.mp hbefore
    rw [List.cons_append, given_cons harg.not_dashes, or_iff_right (harg.not_long hname),
      ih hbefore]

lemma isOther_of_option
    (h : Grammar.top.option r (Shape.ofChars arg.toList) = .ok (r', expects)) : IsOther arg where
  not_dashes harg := by
    rw [shape_dashes_iff.mpr harg] at h
    cases h
  not_long {name} hname harg := by
    rw [hname.shape_iff.mpr harg] at h
    simp only [Grammar.option, if_neg hname.ne_project] at h
    split at h
    · next hflag =>
      obtain ⟨r₁, hread, _⟩ := bind_eq_ok.mp h
      obtain ⟨hhelp, hversion⟩ := flag_ok_ne hread
      simp [Grammar.isFlag, Grammar.top, Grammar.common, hhelp, hversion, hname.ne_verbose] at hflag
    · cases h

lemma helpOn_ne_ok : Invocation.helpOn args ≠ .ok i := by
  intro h
  rw [Invocation.helpOn.eq_def] at h
  split at h <;> cases h

lemma exists_part (h : Invocation.readFrom expects r args = .ok i) :
    ∃ before part r₁ action, args = before ++ part ∧ (∀ a ∈ before, IsOther a) ∧
      Invocation.ofPart r₁ action part = .ok i := by
  fun_induction Invocation.readFrom expects r args with
  | case1 => cases h
  | case2 r arg rest hword ih =>
    obtain ⟨r₁, _, h⟩ := bind_eq_ok.mp h
    obtain ⟨before, part, r₂, action, rfl, hbefore, hpart⟩ := ih r₁ h
    exact ⟨arg :: before, part, r₂, action, rfl,
      List.forall_mem_cons.mpr ⟨isOther_of_word hword, hbefore⟩, hpart⟩
  | case3 => cases h
  | case4 r arg rest hword action =>
    exact ⟨[arg], rest, r, action, rfl, List.forall_mem_singleton.mpr (isOther_of_word hword), h⟩
  | case5 => exact absurd h helpOn_ne_ok
  | case6 => cases h
  | case7 r arg rest hword ih =>
    obtain ⟨⟨r₁, expects⟩, hoption, h⟩ := bind_eq_ok.mp h
    obtain ⟨before, part, r₂, action, rfl, hbefore, hpart⟩ := ih r₁ expects h
    exact ⟨arg :: before, part, r₂, action, rfl,
      List.forall_mem_cons.mpr ⟨isOther_of_option hoption, hbefore⟩, hpart⟩

lemma exists_taken (h : Invocation.read args = .ok i) :
    (∃ own, Taken (.ofAction i.action) {} args own i.reading) ∧
      Invocation.isComplete i.action i.reading = true := by
  obtain ⟨before, part, r, action, rfl, hbefore, hpart⟩ := exists_part h
  rw [Invocation.ofPart] at hpart
  obtain ⟨r', hread, hpart⟩ := bind_eq_ok.mp hpart
  split at hpart
  · next hcomplete =>
    cases hpart
    obtain ⟨own, htaken⟩ := (scans_of_read hread).exists_own rfl (Nat.zero_le _)
    refine ⟨⟨before ++ own, ?_, htaken.words_le, fun hname => ?_⟩, hcomplete⟩
    · rw [htaken.args_eq, List.append_assoc]
    · rw [htaken.has_iff hname, given_append hname hbefore]
  · cases hpart

end Invocations

end DeployForge.CommandLine
