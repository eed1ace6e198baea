import DeployForge.Proofs.Disk.Places
import DeployForge.Proofs.Text.Pieces

namespace DeployForge

namespace Path

variable {name : String} {base q : Path} {from_ : Location}

lemma names_append_slash (s t : String) :
    (⟨s ++ "/" ++ t⟩ : Path).names = (⟨s⟩ : Path).names ++ (⟨t⟩ : Path).names := by
  have htext : (s ++ "/" ++ t).toList = s.toList ++ '/' :: t.toList := by simp
  simp only [names, htext, Text.splitAt_append_separator, List.filter_append, List.map_append]

lemma exists_of_endsInSlash (h : base.endsInSlash = true) : ∃ s : String, base.text = s ++ "/" := by
  rw [endsInSlash, decide_eq_true_eq, List.getLast?_eq_some_iff] at h
  obtain ⟨s, hs⟩ := h
  exact ⟨.ofList s, String.toList_inj.mp (by simp [hs])⟩

section Relative

variable (h : q.isAbsolute = false)

include h

lemma join_cases (base : Path) :
    base.text = "" ∧ base.join q = q ∨
      (∃ s, base.text = s ++ "/" ∧ base.join q = ⟨s ++ "/" ++ q.text⟩) ∨
      base.text ≠ "" ∧ base.join q = ⟨base.text ++ "/" ++ q.text⟩ := by
  rw [join, h]
  by_cases hempty : base.text = ""
  · left
    simp [hempty]
  by_cases hslash : base.endsInSlash = true
  · obtain ⟨s, hs⟩ := exists_of_endsInSlash hslash
    right; left
    exact ⟨s, hs, by simp [hslash, hs]⟩
  · right; right
    exact ⟨hempty, by simp [hempty, hslash]⟩

lemma names_join (base : Path) : (base.join q).names = base.names ++ q.names := by
  obtain ⟨text⟩ := base
  rcases join_cases h ⟨text⟩ with ⟨htext, hjoin⟩ | ⟨s, htext, hjoin⟩ | ⟨_, hjoin⟩
  · obtain rfl : text = "" := htext
    rw [hjoin]
    rfl
  · obtain rfl : text = s ++ "/" := htext
    have hbase : (⟨s ++ "/"⟩ : Path).names = (⟨s⟩ : Path).names := by
      have hnames := names_append_slash s ""
      rwa [String.append_empty, show (⟨""⟩ : Path).names = [] from rfl, List.append_nil] at hnames
    rw [hjoin, names_append_slash, hbase]
  · rw [hjoin, names_append_slash]

lemma isAbsolute_join (base : Path) : (base.join q).isAbsolute = base.isAbsolute := by
  obtain ⟨text⟩ := base
  have hhead {s : String} (hs : s ≠ "") (t : String) :
      (⟨s ++ t⟩ : Path).isAbsolute = (⟨s⟩ : Path).isAbsolute := by
    have hne : s.toList ≠ [] := fun hnil => hs (String.toList_inj.mp hnil)
    obtain ⟨c, rest, hs⟩ := List.exists_cons_of_ne_nil hne
    simp [isAbsolute, String.toList_append, hs]
  rcases join_cases h ⟨text⟩ with ⟨htext, hjoin⟩ | ⟨s, htext, hjoin⟩ | ⟨hne, hjoin⟩
  · obtain rfl : text = "" := htext
    rw [hjoin, h]
    rfl
  · obtain rfl : text = s ++ "/" := htext
    rw [hjoin, hhead (by simp)]
  · rw [hjoin, String.append_assoc, hhead hne]

lemma exists_text_join (base : Path) :
    (∃ s, (base.join q).text = base.text ++ s) ∧ ∃ s, (base.join q).text = s ++ q.text := by
  rcases join_cases h base with ⟨htext, hjoin⟩ | ⟨s, htext, hjoin⟩ | ⟨_, hjoin⟩
  · rw [hjoin, htext]
    exact ⟨⟨q.text, by simp⟩, "", by simp⟩
  · rw [hjoin, htext]
    exact ⟨⟨q.text, rfl⟩, _, rfl⟩
  · rw [hjoin]
    exact ⟨⟨"/" ++ q.text, by simp [String.append_assoc]⟩, _, rfl⟩

end Relative

lemma location_of_names {p : Path} (hside : p.isAbsolute = base.isAbsolute)
    (hnames : p.names = base.names ++ [name]) (hup : name ≠ "..") :
    p.location from_ = base.location from_ ++ [name] := by
  rw [location, start, hside, hnames, List.foldl_append, List.foldl_cons, List.foldl_nil, stepTo,
    if_neg hup]
  rfl

structure IsPlain (name : String) : Prop where
  whole : '/' ∉ name.toList
  nonempty : name.toList ≠ []
  not_dot : name.toList ≠ ['.']
  not_up : name ≠ ".."

namespace IsPlain

variable (h : IsPlain name)

include h

lemma names_eq : (⟨name⟩ : Path).names = [name] := by
  simp [names, Text.splitAt_of_notMem h.whole, h.nonempty, h.not_dot]

lemma not_absolute : (⟨name⟩ : Path).isAbsolute = false := by
  rw [isAbsolute, decide_eq_false_iff_not]
  exact fun hhead => h.whole (List.mem_of_head? hhead)

lemma names_join : (base.join ⟨name⟩).names = base.names ++ [name] := by
  rw [Path.names_join h.not_absolute, h.names_eq]

lemma start_join : (base.join ⟨name⟩).start from_ = base.start from_ := by
  rw [start, start, isAbsolute_join h.not_absolute]

lemma location_join :
    (base.join ⟨name⟩).location from_ = base.location from_ ++ [name] :=
  location_of_names (isAbsolute_join h.not_absolute base) h.names_join h.not_up

lemma endsInSlash_join : (base.join ⟨name⟩).endsInSlash = false := by
  obtain ⟨s, hs⟩ := (exists_text_join h.not_absolute base).2
  have hlast : (s ++ name).toList.getLast? = name.toList.getLast? := by
    rw [String.toList_append, List.getLast?_append, List.getLast?_eq_some_getLast h.nonempty]
    rfl
  rw [endsInSlash, hs, hlast, decide_eq_false_iff_not]
  exact fun hslash => h.whole (List.mem_of_getLast? hslash)

lemma endsInDot_join : (base.join ⟨name⟩).endsInDot = false := by
  have hend (s : List (List Char)) :
      ((s ++ [name.toList]).filter (· ≠ [])).getLast? ≠ some ['.'] := by
    simp [List.filter_append, h.nonempty, h.not_dot]
  have hslash (s : String) : (⟨s ++ "/" ++ name⟩ : Path).endsInDot = false := by
    have htext : (s ++ "/" ++ name).toList = s.toList ++ '/' :: name.toList := by simp
    rw [endsInDot, htext, Text.splitAt_append_separator, Text.splitAt_of_notMem h.whole,
      decide_eq_false_iff_not]
    exact hend _
  rcases join_cases h.not_absolute base with ⟨_, hjoin⟩ | ⟨s, _, hjoin⟩ | ⟨_, hjoin⟩
  · rw [hjoin, endsInDot, Text.splitAt_of_notMem h.whole, decide_eq_false_iff_not]
    exact hend []
  · rw [hjoin, hslash]
  · rw [hjoin, hslash]

end IsPlain

end Path

end DeployForge
