import DeployForge.Proofs.Disk.ReadBack

namespace DeployForge

namespace Path

/-- The places that are looked at on the way along names, without the one that they end at. -/
def placesFrom : Location → List String → List Location
  | _, [] => []
  | at_, name :: rest => at_ :: placesFrom (stepTo at_ name) rest

def way (from_ : Location) (p : Path) : List Location :=
  p.start from_ :: placesFrom (p.start from_) p.names

def inside (from_ : Location) (p : Path) : List Location :=
  placesFrom (p.start from_) (p.names ++ [".."])

variable {at_ k : Location} {names : List String} {name : String}

lemma mem_placesFrom_append : at_ ∈ placesFrom at_ (names ++ [name]) := by
  cases names <;> exact List.mem_cons_self

lemma mem_placesFrom_dropLast (h : k ∈ placesFrom at_ (names.dropLast ++ [name])) :
    k ∈ at_ :: placesFrom at_ names := by
  induction names generalizing at_ with
  | nil => simpa [placesFrom] using h
  | cons first rest ih =>
    cases rest with
    | nil => simpa [placesFrom] using h
    | cons second rest =>
      rw [List.dropLast_cons_cons, List.cons_append, placesFrom, List.mem_cons] at h
      rcases h with rfl | h
      · exact List.mem_cons_self
      · exact List.mem_cons_of_mem _ (List.mem_cons.mpr (.inr (by simpa [placesFrom] using ih h)))

lemma mem_placesFrom_of_dropLast (hne : names ≠ []) (h : k ∈ placesFrom at_ names) :
    k ∈ placesFrom at_ (names.dropLast ++ [name]) := by
  induction names generalizing at_ with
  | nil => exact absurd rfl hne
  | cons first rest ih =>
    cases rest with
    | nil => simpa [placesFrom] using h
    | cons second rest =>
      rw [placesFrom, List.mem_cons] at h
      rw [List.dropLast_cons_cons, List.cons_append, placesFrom, List.mem_cons]
      exact h.imp_right (ih (List.cons_ne_nil _ _))

end Path

namespace Tree

variable {t t' t₁ : Tree} {from_ at_ l k : Location} {names : List String} {p : Path}
  {places : List Location}

/-- Nothing but missing directories keeps the names from being followed. -/
structure IsClear (t : Tree) (at_ : Location) (names : List String) : Prop where
  base : t.find? at_ = some .directory
  short : ∀ name ∈ names, name = ".." ∨ name.utf8ByteSize ≤ 255
  clear : ∀ k ∈ Path.placesFrom at_ names, ∀ c r, t.find? k ≠ some (.file c r)

lemma isClear_of_vacant (hbase : t.find? at_ = some .directory)
    (hshort : ∀ name ∈ names, name = ".." ∨ name.utf8ByteSize ≤ 255)
    (h : ∀ k ∈ Path.placesFrom at_ names, t.find? k = none ∨ t.find? k = some .directory) :
    t.IsClear at_ names := by
  refine ⟨hbase, hshort, fun k hk c r => ?_⟩
  rcases h k hk with hnone | hdir
  · simp [hnone]
  · simp [hdir]

structure Furnishes (places : List Location) (t t' : Tree) : Prop where
  elsewhere : ∀ k ∉ places, t'.find? k = t.find? k
  present : ∀ k ∈ places, t'.find? k = some .directory

lemma Furnishes.keeps_directory (h : t.Furnishes places t') (hk : t.find? k = some .directory) :
    t'.find? k = some .directory := by
  by_cases hmem : k ∈ places
  · exact h.present k hmem
  · rw [h.elsewhere k hmem, hk]

lemma Furnishes.locate (h : t.Furnishes places t') (hl : t.locate from_ p = .ok l) :
    t'.locate from_ p = .ok l := by
  obtain ⟨hsound, hpasses, hloc⟩ := locate_eq_ok.mp hl
  exact locate_eq_ok.mpr ⟨hsound, hpasses.mono fun _ => h.keeps_directory, hloc⟩

lemma Furnishes.cons (h : t₁.Furnishes places t') (hat : t.find? at_ = some .directory)
    (hsame : ∀ k ∉ places, t₁.find? k = t.find? k) : t.Furnishes (at_ :: places) t' where
  elsewhere k hk := by
    rw [List.mem_cons, not_or] at hk
    rw [h.elsewhere k hk.2, hsame k hk.2]
  present k hk := by
    by_cases hmem : k ∈ places
    · exact h.present k hmem
    · obtain rfl : k = at_ := (List.mem_cons.mp hk).resolve_right hmem
      rw [h.elsewhere k hmem, hsame k hmem, hat]

lemma passes_of_directories (hshort : ∀ name ∈ names, name = ".." ∨ name.utf8ByteSize ≤ 255)
    (h : ∀ k ∈ Path.placesFrom at_ names, t.find? k = some .directory) : t.Passes at_ names := by
  induction names generalizing at_ with
  | nil => trivial
  | cons name rest ih =>
    rw [Path.placesFrom, List.forall_mem_cons] at h
    rw [List.forall_mem_cons] at hshort
    exact ⟨h.1, hshort.1, ih hshort.2 h.2⟩

lemma walk_cons (hat : t.find? at_ = some .directory) {name : String}
    (hshort : name = ".." ∨ name.utf8ByteSize ≤ 255) :
    t.walk at_ (name :: names) = t.walk (Path.stepTo at_ name) names := by
  rw [walk, hat, Path.stepTo]
  by_cases hup : name = ".."
  · simp only [if_pos hup]
  · have hlong : ¬ name.utf8ByteSize > 255 := Nat.not_lt.mpr (hshort.resolve_left hup)
    simp only [if_neg hup, if_neg hlong]

lemma walk_of_clear (hshort : ∀ name ∈ names, name = ".." ∨ name.utf8ByteSize ≤ 255)
    (hclear : ∀ k ∈ Path.placesFrom at_ names, ∀ c r, t.find? k ≠ some (.file c r)) :
    t.walk at_ names = .error .noEntry ∨
      t.walk at_ names = .ok (names.foldl Path.stepTo at_) := by
  induction names generalizing at_ with
  | nil => exact .inr rfl
  | cons name rest ih =>
    rw [Path.placesFrom, List.forall_mem_cons] at hclear
    rw [List.forall_mem_cons] at hshort
    cases hat : t.find? at_ with
    | none =>
      left
      rw [walk, hat]
    | some node =>
      cases node with
      | file c r => exact absurd hat (hclear.1 c r)
      | directory =>
        rw [walk_cons hat hshort.1]
        exact ih hshort.2 hclear.2

lemma createChain_of_clear (made : Bool) {name : String} (h : t.IsClear at_ (names ++ [name])) :
    (t.createChain false made at_ names).1 = .ok () ∧
      t.Furnishes (Path.placesFrom at_ (names ++ [name]))
        (t.createChain false made at_ names).2 := by
  -- A directory is made only where nothing is, so the rest of the way stays clear.
  induction names generalizing at_ made t with
  | nil =>
    refine ⟨rfl, fun _ _ => rfl, fun k hk => ?_⟩
    obtain rfl : k = at_ := by simpa [Path.placesFrom] using hk
    exact h.base
  | cons first rest ih =>
    have hshort := h.short first List.mem_cons_self
    have hwalk : t.walk at_ [first] = .ok (Path.stepTo at_ first) := walk_cons h.base hshort
    have hmem : Path.stepTo at_ first ∈ Path.placesFrom (Path.stepTo at_ first) (rest ++ [name]) :=
      Path.mem_placesFrom_append
    have hclear := h.clear (Path.stepTo at_ first) (List.mem_cons_of_mem _ hmem)
    cases hfind : t.find? (Path.stepTo at_ first) with
    | none =>
      have hstep : t.createChain false made at_ (first :: rest) =
          (t.insert (Path.stepTo at_ first) .directory).createChain false true
            (Path.stepTo at_ first) rest := by
        rw [createChain, hwalk]
        simp [hfind]
      have hfree : t.find? (Path.stepTo at_ first) ≠ some .directory := by simp [hfind]
      have hbase : (t.insert (Path.stepTo at_ first) .directory).find? (Path.stepTo at_ first) =
          some .directory :=
        find?_insert_self (ne_nil_of_find? hfree)
      have hclear' : (t.insert (Path.stepTo at_ first) .directory).IsClear (Path.stepTo at_ first)
          (rest ++ [name]) := by
        refine ⟨hbase, fun n hn => h.short n (List.mem_cons_of_mem _ hn), fun k hk c r => ?_⟩
        by_cases heq : k = Path.stepTo at_ first
        · simp [heq, hbase]
        · rw [find?_insert_of_ne heq]
          exact h.clear k (List.mem_cons_of_mem _ hk) c r
      obtain ⟨hok, hfurnished⟩ := ih true hclear'
      rw [hstep]
      refine ⟨hok, hfurnished.cons h.base fun k hk => find?_insert_of_ne ?_⟩
      rintro rfl
      exact hk hmem
    | some node =>
      cases node with
      | file c r => exact absurd hfind (hclear c r)
      | directory =>
        have hstep : t.createChain false made at_ (first :: rest) =
            t.createChain false made (Path.stepTo at_ first) rest := by
          rw [createChain, hwalk]
          simp [hfind]
        have hclear' : t.IsClear (Path.stepTo at_ first) (rest ++ [name]) :=
          ⟨hfind, fun n hn => h.short n (List.mem_cons_of_mem _ hn),
            fun k hk => h.clear k (List.mem_cons_of_mem _ hk)⟩
        obtain ⟨hok, hfurnished⟩ := ih made hclear'
        rw [hstep]
        exact ⟨hok, hfurnished.cons h.base fun _ _ => rfl⟩

/-- Nothing is where `p` leads, or a file that `p` names. -/
def MayHold (t : Tree) (from_ : Location) (p : Path) : Prop :=
  t.find? (p.location from_) = none ∨ t.IsTarget from_ p (p.location from_)

/-- A file could be put at `p`, once the directories on its way are there. -/
structure Opens (t : Tree) (from_ : Location) (p : Path) : Prop where
  sound : p.IsSound
  slash : p.endsInSlash = false
  dot : p.endsInDot = false
  clear : t.IsClear (p.start from_) p.names

lemma IsTarget.changesAt (h : t.IsTarget from_ p l) (hc : t.ChangesAt k t') (hne : l ≠ k) :
    t'.IsTarget from_ p l :=
  ⟨h.slash, h.dot, hc.locate h.located, by rw [hc.elsewhere l hne]; exact h.free⟩

lemma MayHold.changesAt (h : t.MayHold from_ p) (hc : t.ChangesAt k t')
    (hne : p.location from_ ≠ k) : t'.MayHold from_ p := by
  rcases h with hnone | htarget
  · exact .inl (by rw [hc.elsewhere _ hne, hnone])
  · exact .inr (htarget.changesAt hc hne)

lemma MayHold.furnishes (h : t.MayHold from_ p) (hf : t.Furnishes places t')
    (hout : p.location from_ ∉ places) : t'.MayHold from_ p := by
  rcases h with hnone | htarget
  · exact .inl (by rw [hf.elsewhere _ hout, hnone])
  · exact .inr ⟨htarget.slash, htarget.dot, hf.locate htarget.located,
      by rw [hf.elsewhere _ hout]; exact htarget.free⟩

lemma MayHold.ne_directory (h : t.MayHold from_ p) :
    t.find? (p.location from_) ≠ some .directory := by
  rcases h with hnone | htarget
  · simp [hnone]
  · exact htarget.free

lemma IsTarget.read_eq {c : ByteArray} {r : Bool} (h : t.IsTarget from_ p l)
    (hf : t.find? l = some (.file c r)) : t.read from_ p = .ok c := by
  rw [read, status_eq_of_locate h.located, hf]
  simp [h.slash, h.dot]

lemma IsClear.changesAt (h : t.IsClear at_ names) (hc : t.ChangesAt k t')
    (hclear : k ∈ Path.placesFrom at_ names → ∀ c r, t'.find? k ≠ some (.file c r)) :
    t'.IsClear at_ names where
  base := hc.keeps_directory h.base
  short := h.short
  clear j hj c r := by
    by_cases heq : j = k
    · exact heq ▸ hclear (heq ▸ hj) c r
    · rw [hc.elsewhere j heq]
      exact h.clear j hj c r

lemma IsClear.furnishes (h : t.IsClear at_ names) (hf : t.Furnishes places t') :
    t'.IsClear at_ names where
  base := hf.keeps_directory h.base
  short := h.short
  clear j hj c r := by
    by_cases hmem : j ∈ places
    · simp [hf.present j hmem]
    · rw [hf.elsewhere j hmem]
      exact h.clear j hj c r

lemma Opens.changesAt (h : t.Opens from_ p) (hc : t.ChangesAt k t')
    (hclear : k ∈ p.way from_ → ∀ c r, t'.find? k ≠ some (.file c r)) : t'.Opens from_ p :=
  ⟨h.sound, h.slash, h.dot,
    h.clear.changesAt hc fun hk => hclear (List.mem_cons_of_mem _ hk)⟩

lemma Opens.furnishes (h : t.Opens from_ p) (hf : t.Furnishes places t') : t'.Opens from_ p :=
  ⟨h.sound, h.slash, h.dot, h.clear.furnishes hf⟩

lemma locate_of_sound (h : p.IsSound) :
    t.locate from_ p = (t.walk (p.start from_) p.names).mapError .os := by
  rw [locate, follow, if_neg (Bool.eq_false_iff.mp h.noNul),
    if_neg (Bool.eq_false_iff.mp h.nonempty), if_neg (Nat.not_lt.mpr h.short)]
  rfl

lemma Opens.locate_cases (h : t.Opens from_ p) :
    t.locate from_ p = .error (.os .noEntry) ∨ t.locate from_ p = .ok (p.location from_) := by
  rw [locate_of_sound h.sound]
  rcases walk_of_clear h.clear.short h.clear.clear with hw | hw
  · left
    rw [hw]
    rfl
  · right
    rw [hw]
    rfl

lemma Opens.status_of_absent (h : t.Opens from_ p) (hnone : t.find? (p.location from_) = none) :
    t.status from_ p = .error (.os .noEntry) := by
  rcases h.locate_cases with hl | hl
  · rw [status, hl]
    rfl
  · rw [status_eq_of_locate hl, hnone]

lemma Opens.read_of_absent (h : t.Opens from_ p) (hnone : t.find? (p.location from_) = none) :
    t.read from_ p = .error (.os .noEntry) := by
  rw [read, h.status_of_absent hnone]

section Removal

variable {held : Location → Option Refusal}

lemma Opens.remove_of_absent (h : t.Opens from_ p) (hnone : t.find? (p.location from_) = none) :
    t.remove held from_ p = .error (.os .noEntry) := by
  rcases h.locate_cases with hl | hl
  · rw [remove, hl]
    rfl
  · rw [remove_eq_of_locate hl, hnone]

lemma IsTarget.remove_eq {c : ByteArray} {r : Bool} (h : t.IsTarget from_ p l)
    (hf : t.find? l = some (.file c r)) :
    t.remove held from_ p =
      match held l with
      | some refusal => .error (.os refusal.error)
      | none => .ok (t.erase l) := by
  have hremove : t.remove held from_ p = _ := remove_eq_of_locate h.located
  simp only [hf, h.slash, h.dot] at hremove
  exact hremove

structure Clears (held : Location → Option Refusal) (t : Tree) (from_ : Location) (p : Path)
    (t' : Tree) : Prop where
  removed : t.remove held from_ p = .ok t' ∨
    t.remove held from_ p = .error (.os .noEntry) ∧ t' = t
  changesAt : t.ChangesAt (p.location from_) t'
  gone : t'.find? (p.location from_) = none

/-- The ways a removal can go where `p` leads to a file or to nothing. -/
inductive Yields (held : Location → Option Refusal) (t : Tree) (from_ : Location) (p : Path) : Prop
  | cleared {t' : Tree}
      (free : held (p.location from_) = none ∨ t.find? (p.location from_) = none)
      (clears : t.Clears held from_ p t')
  | refused {c : ByteArray} {r : Bool} {refusal : Refusal}
      (file : t.find? (p.location from_) = some (.file c r))
      (kept : held (p.location from_) = some refusal)
      (error : t.remove held from_ p = .error (.os refusal.error))

lemma IsTarget.yields (h : t.IsTarget from_ p (p.location from_)) : t.Yields held from_ p := by
  cases hf : t.find? (p.location from_) with
  | none =>
    refine .cleared (.inr hf) ⟨.inr ⟨?_, rfl⟩, .refl t _, hf⟩
    rw [remove_eq_of_locate h.located, hf]
  | some node =>
    cases node with
    | directory => exact absurd hf h.free
    | file c r =>
      have hremove : t.remove held from_ p = _ := h.remove_eq hf
      cases hheld : held (p.location from_) with
      | some refusal => exact .refused hf hheld (by rw [hremove, hheld])
      | none =>
        exact .cleared (.inl hheld) ⟨.inl (by rw [hremove, hheld]), changesAt_erase h.free,
          find?_erase_self (ne_nil_of_find? h.free)⟩

lemma Opens.yields (h : t.Opens from_ p) (hm : t.MayHold from_ p) : t.Yields held from_ p := by
  rcases hm with hnone | htarget
  · exact .cleared (.inr hnone) ⟨.inr ⟨h.remove_of_absent hnone, rfl⟩, .refl t _, hnone⟩
  · exact htarget.yields

end Removal

lemma Opens.createChain (h : t.Opens from_ p)
    (hfree : t.find? (p.location from_) ≠ some .directory)
    (hout : p.location from_ ∉ Path.placesFrom (p.start from_) (p.names.dropLast ++ [".."])) :
    t.Furnishes (Path.placesFrom (p.start from_) (p.names.dropLast ++ [".."]))
        (t.createChain false false (p.start from_) p.names.dropLast).2 ∧
      (t.createChain false false (p.start from_) p.names.dropLast).2.IsTarget from_ p
        (p.location from_) := by
  have hne : p.names ≠ [] := by
    intro hnil
    apply hfree
    rw [Path.location, hnil]
    exact h.clear.base
  have hclear : t.IsClear (p.start from_) (p.names.dropLast ++ [".."]) := by
    refine ⟨h.clear.base, fun name hname => ?_, fun k hk => ?_⟩
    · rcases List.mem_append.mp hname with hname | hname
      · exact h.clear.short name (List.dropLast_subset _ hname)
      · exact .inl (by simpa using hname)
    · rcases List.mem_cons.mp (Path.mem_placesFrom_dropLast hk) with rfl | hk
      · simp [h.clear.base]
      · exact h.clear.clear k hk
  have hfurnishes := (createChain_of_clear false hclear).2
  refine ⟨hfurnishes, h.slash, h.dot, ?_, ?_⟩
  · refine locate_eq_ok.mpr ⟨h.sound, passes_of_directories h.clear.short fun k hk => ?_, rfl⟩
    exact hfurnishes.present k (Path.mem_placesFrom_of_dropLast hne hk)
  · rw [hfurnishes.elsewhere _ hout]
    exact hfree

/-- At `k` the tree is the same, unless a directory was made there, at one of these places, where
nothing was. -/
def MakesAt (places : List Location) (k : Location) (t t' : Tree) : Prop :=
  t'.find? k = t.find? k ∨ k ∈ places ∧ t.find? k = none ∧ t'.find? k = some .directory

def Makes (places : List Location) (t t' : Tree) : Prop := ∀ k, MakesAt places k t t'

lemma MakesAt.refl (places : List Location) (k : Location) (t : Tree) : MakesAt places k t t :=
  .inl rfl

lemma MakesAt.trans {t'' : Tree} (h : MakesAt places k t t') (h' : MakesAt places k t' t'') :
    MakesAt places k t t'' := by
  rcases h' with hsame | ⟨hk, hnone, hdir⟩
  · rw [MakesAt, hsame]
    exact h
  · refine .inr ⟨hk, ?_, hdir⟩
    rcases h with hsame | ⟨_, hnone, _⟩
    · rw [← hsame, hnone]
    · exact hnone

lemma MakesAt.eq_of_ne_none (h : MakesAt places k t t') (hne : t.find? k ≠ none) :
    t'.find? k = t.find? k :=
  h.resolve_right fun ⟨_, hnone, _⟩ => hne hnone

lemma Makes.refl (places : List Location) (t : Tree) : Makes places t t :=
  fun k => .refl places k t

lemma Makes.trans {t'' : Tree} (h : Makes places t t') (h' : Makes places t' t'') :
    Makes places t t'' :=
  fun k => (h k).trans (h' k)

lemma Makes.mono {places' : List Location} (h : Makes places t t') (hsub : places ⊆ places') :
    Makes places' t t' :=
  fun k => (h k).imp_right fun ⟨hk, hmade⟩ => ⟨hsub hk, hmade⟩

lemma makes_insert (hl : t.find? l = none) (hmem : l ∈ places) :
    Makes places t (t.insert l .directory) := by
  have hfree : t.find? l ≠ some .directory := by simp [hl]
  intro k
  by_cases hk : k = l
  · subst hk
    exact .inr ⟨hmem, hl, find?_insert_self (ne_nil_of_find? hfree)⟩
  · exact .inl (find?_insert_of_ne hk)

lemma makes_createChain (dotted made : Bool) (name : String) :
    Makes (Path.placesFrom at_ (names ++ [name])) t (t.createChain dotted made at_ names).2 := by
  induction names generalizing at_ made t with
  | nil => exact .refl _ _
  | cons first rest ih =>
    have hsub : Path.placesFrom (Path.stepTo at_ first) (rest ++ [name]) ⊆
        Path.placesFrom at_ (first :: rest ++ [name]) :=
      List.subset_cons_self _ _
    rw [createChain]
    cases hwalk : t.walk at_ [first] with
    | error e => exact .refl _ _
    | ok l =>
      obtain ⟨_, rfl⟩ := walk_eq_ok.mp hwalk
      have hmem : Path.stepTo at_ first ∈ Path.placesFrom at_ (first :: rest ++ [name]) :=
        hsub Path.mem_placesFrom_append
      cases hfind : t.find? (Path.stepTo at_ first) with
      | none =>
        simp only [List.foldl_cons, List.foldl_nil, hfind]
        split
        · exact .refl _ _
        · exact (makes_insert hfind hmem).trans ((ih true).mono hsub)
      | some node =>
        cases node with
        | file c r =>
          simp only [List.foldl_cons, List.foldl_nil, hfind]
          exact .refl _ _
        | directory =>
          simp only [List.foldl_cons, List.foldl_nil, hfind]
          exact (ih made).mono hsub

lemma makes_createDirectories (t : Tree) (from_ : Location) (p : Path) :
    Makes (p.inside from_) t (t.createDirectories from_ p).2 := by
  rw [createDirectories]
  split
  · exact .refl _ _
  split
  · exact .refl _ _
  split
  · exact .refl _ _
  · exact makes_createChain _ _ _

end Tree

lemma Disk.makes_createDirectories {d d' : Disk} {p : Path} {result : Except IoError Unit}
    (h : d.createDirectories p = (result, d')) :
    d'.place = d.place ∧ Tree.Makes (p.inside d.place) d.tree d'.tree := by
  obtain rfl := (Prod.mk.inj h).2
  exact ⟨rfl, Tree.makes_createDirectories d.tree d.place p⟩

end DeployForge
