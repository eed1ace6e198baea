import DeployForge.Proofs.Disk.Furnishing

namespace DeployForge

namespace Tree

variable {t t' : Tree} {from_ at_ l k : Location} {names rest : List String} {name : String}
  {p : Path} {n : Node}

lemma passes_append : t.Passes at_ (names ++ rest) ↔
    t.Passes at_ names ∧ t.Passes (names.foldl Path.stepTo at_) rest := by
  induction names generalizing at_ with
  | nil => simp [Passes]
  | cons first names ih => simp only [List.cons_append, Passes, List.foldl_cons, ih, and_assoc]

lemma walk_append (h : t.Passes at_ names) :
    t.walk at_ (names ++ rest) = t.walk (names.foldl Path.stepTo at_) rest := by
  induction names generalizing at_ with
  | nil => rfl
  | cons first names ih =>
    rw [List.cons_append, walk_cons h.1 h.2.1, ih h.2.2]
    rfl

lemma directory_of_passes (h : t.Passes at_ names) (hk : k ∈ Path.placesFrom at_ names) :
    t.find? k = some .directory := by
  induction names generalizing at_ with
  | nil => cases hk
  | cons first names ih =>
    rcases List.mem_cons.mp hk with rfl | hk
    · exact h.1
    · exact ih h.2.2 hk

lemma short_of_passes (h : t.Passes at_ names) :
    ∀ name ∈ names, name = ".." ∨ name.utf8ByteSize ≤ 255 := by
  induction names generalizing at_ with
  | nil => simp
  | cons first names ih =>
    rw [List.forall_mem_cons]
    exact ⟨h.2.1, ih h.2.2⟩

lemma isClear_of_passes (h : t.Passes at_ (names ++ [name])) : t.IsClear at_ (names ++ [name]) :=
  isClear_of_vacant (directory_of_passes h Path.mem_placesFrom_append) (short_of_passes h)
    fun _ hk => .inr (directory_of_passes h hk)

lemma insert_insert (l : Location) (n : Node) : (t.insert l n).insert l n = t.insert l n := by
  simp [insert, erase]

structure IsReached (t : Tree) (from_ : Location) (p : Path) : Prop where
  passes : t.Passes (p.start from_) p.names
  present : t.find? (p.location from_) = some .directory

lemma isReached_iff : t.IsReached from_ p ↔ t.Passes (p.start from_) (p.names ++ [".."]) := by
  rw [passes_append]
  exact ⟨fun h => ⟨h.passes, h.present, .inl rfl, trivial⟩, fun h => ⟨h.1, h.2.1⟩⟩

namespace IsReached

variable (h : t.IsReached from_ p)

include h

lemma directory (hk : k ∈ p.inside from_) : t.find? k = some .directory :=
  directory_of_passes (isReached_iff.mp h) hk

lemma mono (hkeep : ∀ k ∈ p.inside from_, t.find? k = some .directory →
    t'.find? k = some .directory) : t'.IsReached from_ p :=
  isReached_iff.mpr (passes_of_directories (short_of_passes (isReached_iff.mp h))
    fun k hk => hkeep k hk (h.directory hk))

lemma isClear (hshort : name.utf8ByteSize ≤ 255) :
    t.IsClear (p.start from_) (p.names ++ [name]) :=
  isClear_of_passes (passes_append.mpr ⟨h.passes, h.present, .inr hshort, trivial⟩)

lemma walk_last (hname : name ≠ "..") : t.walk (p.start from_) (p.names ++ [name]) =
    if name.utf8ByteSize > 255 then .error .nameTooLong else .ok (p.location from_ ++ [name]) := by
  have hpresent : t.find? (p.names.foldl Path.stepTo (p.start from_)) = some .directory :=
    h.present
  rw [walk_append h.passes, walk, hpresent]
  simp only [if_neg hname]
  rfl

end IsReached

section Chain

variable {dotted made : Bool}

lemma createChain_of_passes (h : t.Passes at_ (names ++ [name])) :
    t.createChain dotted made at_ names = (.ok (), t) := by
  induction names generalizing at_ with
  | nil => rfl
  | cons first names ih =>
    have hwalk : t.walk at_ [first] = .ok (Path.stepTo at_ first) := walk_cons h.1 h.2.1
    have hnext : t.find? (Path.stepTo at_ first) = some .directory :=
      directory_of_passes h.2.2 Path.mem_placesFrom_append
    rw [createChain, hwalk]
    simp only [hnext]
    exact ih h.2.2

lemma exists_of_createChain_cons {first : String}
    (h : (t.createChain dotted made at_ (first :: names)).1 = .ok ()) :
    t.Passes at_ [first] ∧ ∃ (t' : Tree) (made' : Bool),
      t'.find? (Path.stepTo at_ first) = some .directory ∧
      (∀ k, t'.find? k = t.find? k ∨ t.find? k = none) ∧
        (t'.createChain dotted made' (Path.stepTo at_ first) names).1 = .ok () := by
  rw [createChain] at h
  cases hwalk : t.walk at_ [first] with
  | error e => simp [hwalk] at h
  | ok l =>
    obtain ⟨hpasses, rfl⟩ := walk_eq_ok.mp hwalk
    refine ⟨hpasses, ?_⟩
    simp only [hwalk, List.foldl_cons, List.foldl_nil] at h
    cases hfind : t.find? (Path.stepTo at_ first) with
    | none =>
      have hfree : t.find? (Path.stepTo at_ first) ≠ some .directory := by simp [hfind]
      simp only [hfind] at h
      split at h
      · cases h
      · refine ⟨_, _, find?_insert_self (ne_nil_of_find? hfree), fun k => ?_, h⟩
        by_cases hk : k = Path.stepTo at_ first
        · exact .inr (hk ▸ hfind)
        · exact .inl (find?_insert_of_ne hk)
    | some node =>
      cases node with
      | file c r => simp [hfind] at h
      | directory =>
        simp only [hfind] at h
        exact ⟨t, _, hfind, fun _ => .inl rfl, h⟩

lemma isClear_of_createChain (hbase : t.find? at_ = some .directory)
    (hname : name = ".." ∨ name.utf8ByteSize ≤ 255)
    (h : (t.createChain dotted made at_ names).1 = .ok ()) : t.IsClear at_ (names ++ [name]) := by
  induction names generalizing at_ made t with
  | nil =>
    refine ⟨hbase, by simpa using hname, fun k hk c r => ?_⟩
    obtain rfl : k = at_ := by simpa [Path.placesFrom] using hk
    simp [hbase]
  | cons first names ih =>
    obtain ⟨hpasses, t', _, hnext, hsame, hrest⟩ := exists_of_createChain_cons h
    have hclear := ih hnext hrest
    refine ⟨hbase, List.forall_mem_cons.mpr ⟨hpasses.2.1, hclear.short⟩, ?_⟩
    refine List.forall_mem_cons.mpr ⟨by simp [hbase], fun k hk c r => ?_⟩
    rcases hsame k with hk' | hk'
    · rw [← hk']
      exact hclear.clear k hk c r
    · simp [hk']

lemma createDirectories_eq_ok : t.createDirectories from_ p = (.ok (), t') ↔
    (p.text.isEmpty = true ∨ p.IsSound) ∧
      t.createChain p.endsInDot false (p.start from_) p.names = (.ok (), t') := by
  rw [createDirectories]
  by_cases hempty : p.text.isEmpty = true
  · have hnames : p.names = [] := by
      obtain ⟨text⟩ := p
      obtain rfl : text = "" := by simpa using hempty
      rfl
    simp [hempty, hnames, createChain]
  rw [if_neg hempty]
  by_cases hnul : p.text.toList.contains '\x00' = true
  · rw [if_pos hnul]
    simpa [hempty] using fun h : p.IsSound => absurd hnul (Bool.eq_false_iff.mp h.noNul)
  rw [if_neg hnul]
  by_cases hlong : p.text.utf8ByteSize > 4095
  · rw [if_pos hlong]
    simpa [hempty] using fun h : p.IsSound => absurd h.short (Nat.not_le_of_gt hlong)
  rw [if_neg hlong]
  exact ⟨fun h => ⟨.inr ⟨by simpa using hnul, by simpa using hempty, Nat.le_of_not_gt hlong⟩, h⟩,
    fun h => h.2⟩

lemma IsReached.createDirectories (h : t.IsReached from_ p)
    (hp : p.text.isEmpty = true ∨ p.IsSound) : t.createDirectories from_ p = (.ok (), t) :=
  createDirectories_eq_ok.mpr ⟨hp, createChain_of_passes (isReached_iff.mp h)⟩

end Chain

section Reading

lemma locate_congr (h : t.walk (p.start from_) p.names = t'.walk (p.start from_) p.names) :
    t.locate from_ p = t'.locate from_ p := by
  rw [Path.start] at h
  rw [locate, locate, follow, follow, h]

lemma locate_of_not_sound (h : ¬ p.IsSound) : t.locate from_ p = t'.locate from_ p := by
  rw [locate, locate, follow, follow]
  by_cases hnul : p.text.toList.contains '\x00' = true
  · rw [if_pos hnul, if_pos hnul]
  by_cases hempty : p.text.isEmpty = true
  · rw [if_neg hnul, if_neg hnul, if_pos hempty, if_pos hempty]
  by_cases hlong : p.text.utf8ByteSize > 4095
  · rw [if_neg hnul, if_neg hnul, if_neg hempty, if_neg hempty, if_pos hlong, if_pos hlong]
  · exact absurd ⟨by simpa using hnul, by simpa using hempty, Nat.le_of_not_gt hlong⟩ h

lemma read_congr (hlocate : t.locate from_ p = t'.locate from_ p)
    (hfind : t.find? (p.location from_) = t'.find? (p.location from_)) :
    t.read from_ p = t'.read from_ p := by
  have hstatus : t.status from_ p = t'.status from_ p := by
    cases hl : t.locate from_ p with
    | error e =>
      rw [status, status, ← hlocate, hl]
      rfl
    | ok l =>
      obtain rfl := location_of_locate hl
      rw [status_eq_of_locate hl, status_eq_of_locate (hlocate ▸ hl), hfind]
  rw [read, read, hstatus]

end Reading

def IsRooted (t : Tree) : Prop := ∀ e ∈ t.entries, t.find? e.1.dropLast = some .directory

lemma IsRooted.directory (h : t.IsRooted) (hne : t.find? (l ++ [name]) ≠ none) :
    t.find? l = some .directory := by
  rw [find?, if_neg (by simp), Ne, List.lookup_eq_none_iff] at hne
  push Not at hne
  obtain ⟨e, he, heq⟩ := hne
  have hplace : l ++ [name] = e.1 := by simpa using heq
  simpa [← hplace] using h e he

end Tree

end DeployForge
