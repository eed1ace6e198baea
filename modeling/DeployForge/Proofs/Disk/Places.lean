import DeployForge.Disk
import DeployForge.Proofs.Outcome

namespace DeployForge

namespace Path

def stepTo (at_ : Location) (name : String) : Location :=
  if name = ".." then at_.dropLast else at_ ++ [name]

def start (from_ : Location) (p : Path) : Location := if p.isAbsolute then [] else from_

/-- Where `p` leads from the directory `from_`, whatever is there. -/
def location (from_ : Location) (p : Path) : Location := p.names.foldl stepTo (p.start from_)

structure IsSound (p : Path) : Prop where
  noNul : p.text.toList.contains '\x00' = false
  nonempty : p.text.isEmpty = false
  short : p.text.utf8ByteSize ≤ 4095

end Path

namespace Tree

variable {t t' : Tree} {l k from_ at_ : Location} {names : List String} {p : Path} {n : Node}
  {held : Location → Option Refusal}

def Passes (t : Tree) : Location → List String → Prop
  | _, [] => True
  | at_, name :: rest =>
    t.find? at_ = some .directory ∧ (name = ".." ∨ name.utf8ByteSize ≤ 255) ∧
      t.Passes (Path.stepTo at_ name) rest

lemma walk_eq_ok :
    t.walk at_ names = .ok l ↔ t.Passes at_ names ∧ l = names.foldl Path.stepTo at_ := by
  induction names generalizing at_ with
  | nil => simp [walk, Passes, eq_comm]
  | cons name rest ih =>
    rw [walk, Passes, List.foldl_cons, Path.stepTo]
    cases t.find? at_ with
    | none => simp
    | some node =>
      cases node with
      | file content runnable => simp
      | directory =>
        by_cases hup : name = ".."
        · simp [hup, ih]
        · by_cases hlong : name.utf8ByteSize > 255
          · simp [hup, hlong, Nat.not_le_of_gt hlong]
          · simp [hup, hlong, Nat.le_of_not_gt hlong, ih]

lemma locate_eq_ok : t.locate from_ p = .ok l ↔
    p.IsSound ∧ t.Passes (p.start from_) p.names ∧ l = p.location from_ := by
  rw [locate, follow]
  by_cases hnul : p.text.toList.contains '\x00' = true
  · rw [if_pos hnul]
    exact ⟨nofun, fun h => absurd hnul (Bool.eq_false_iff.mp h.1.noNul)⟩
  by_cases hempty : p.text.isEmpty = true
  · rw [if_neg hnul, if_pos hempty]
    exact ⟨nofun, fun h => absurd hempty (Bool.eq_false_iff.mp h.1.nonempty)⟩
  by_cases hlong : p.text.utf8ByteSize > 4095
  · rw [if_neg hnul, if_neg hempty, if_pos hlong]
    exact ⟨nofun, fun h => absurd h.1.short (Nat.not_le_of_gt hlong)⟩
  rw [if_neg hnul, if_neg hempty, if_neg hlong, mapError_eq_ok, walk_eq_ok]
  have hsound : p.IsSound :=
    ⟨by simpa using hnul, by simpa using hempty, Nat.le_of_not_gt hlong⟩
  exact ⟨fun h => ⟨hsound, h⟩, fun h => h.2⟩

lemma location_of_locate (h : t.locate from_ p = .ok l) : l = p.location from_ :=
  (locate_eq_ok.mp h).2.2

/-- Everything but what is at `l` stays, and a directory stays there too. -/
structure ChangesAt (t : Tree) (l : Location) (t' : Tree) : Prop where
  elsewhere : ∀ k, k ≠ l → t'.find? k = t.find? k
  directory : t.find? l = some .directory → t'.find? l = some .directory

lemma ChangesAt.refl (t : Tree) (l : Location) : t.ChangesAt l t := ⟨fun _ _ => rfl, id⟩

lemma ChangesAt.trans {t'' : Tree} (h : t.ChangesAt l t') (h' : t'.ChangesAt l t'') :
    t.ChangesAt l t'' :=
  ⟨fun k hk => (h'.elsewhere k hk).trans (h.elsewhere k hk),
    fun hdir => h'.directory (h.directory hdir)⟩

lemma ne_nil_of_find? (h : t.find? l ≠ some .directory) : l ≠ [] := by
  rintro rfl
  exact h rfl

lemma find?_insert_self (hl : l ≠ []) : (t.insert l n).find? l = some n := by
  simp [find?, insert, hl]

lemma lookup_erase (hk : k ≠ l) : (t.erase l).entries.lookup k = t.entries.lookup k := by
  rw [erase]
  induction t.entries with
  | nil => rfl
  | cons e es ih =>
    by_cases he : e.1 = l
    · have hne : (k == e.1) = false := by simpa [he] using hk
      rw [List.filter_cons_of_neg (by simpa using he), ih, List.lookup_cons, hne]
    · rw [List.filter_cons_of_pos (by simpa using he), List.lookup_cons, List.lookup_cons, ih]

lemma find?_insert_of_ne (hk : k ≠ l) : (t.insert l n).find? k = t.find? k := by
  have hne : (k == l) = false := by simpa using hk
  simp only [find?, insert, List.lookup_cons, hne, lookup_erase hk]

lemma find?_erase_of_ne (hk : k ≠ l) : (t.erase l).find? k = t.find? k := by
  rw [find?, find?, lookup_erase hk]

lemma find?_erase_self (hl : l ≠ []) : (t.erase l).find? l = none := by
  rw [find?, if_neg hl, erase, List.lookup_eq_none_iff]
  intro e he
  have hne : e.1 ≠ l := by simpa using (List.mem_filter.mp he).2
  exact bne_iff_ne.mpr hne.symm

lemma changesAt_insert (hl : t.find? l ≠ some .directory) : t.ChangesAt l (t.insert l n) :=
  ⟨fun _ hk => find?_insert_of_ne hk, fun h => absurd h hl⟩

lemma changesAt_erase (hl : t.find? l ≠ some .directory) : t.ChangesAt l (t.erase l) :=
  ⟨fun _ hk => find?_erase_of_ne hk, fun h => absurd h hl⟩

lemma ChangesAt.keeps_directory (h : t.ChangesAt l t') (hk : t.find? k = some .directory) :
    t'.find? k = some .directory := by
  by_cases heq : k = l
  · subst heq
    exact h.directory hk
  · rw [h.elsewhere k heq, hk]

lemma Passes.mono (h : t.Passes at_ names)
    (hkeep : ∀ k, t.find? k = some .directory → t'.find? k = some .directory) :
    t'.Passes at_ names := by
  induction names generalizing at_ with
  | nil => trivial
  | cons name rest ih => exact ⟨hkeep _ h.1, h.2.1, ih h.2.2⟩

lemma ChangesAt.locate (h : t.ChangesAt l t') (hk : t.locate from_ p = .ok k) :
    t'.locate from_ p = .ok k := by
  obtain ⟨hsound, hpasses, hloc⟩ := locate_eq_ok.mp hk
  exact locate_eq_ok.mpr ⟨hsound, hpasses.mono fun _ => h.keeps_directory, hloc⟩

lemma status_eq_of_locate (h : t.locate from_ p = .ok l) :
    t.status from_ p =
      match t.find? l with
      | none => .error (.os .noEntry)
      | some .directory => .ok .directory
      | some n => if p.endsInSlash || p.endsInDot then .error (.os .notDirectory) else .ok n := by
  rw [status, h]
  rfl

lemma ChangesAt.status {node : Node} (h : t.ChangesAt l t') (hp : p.location from_ ≠ l)
    (hs : t.status from_ p = .ok node) : t'.status from_ p = .ok node := by
  obtain ⟨k, hk, _⟩ := bind_eq_ok.mp hs
  have hne : k ≠ l := location_of_locate hk ▸ hp
  rw [status_eq_of_locate (h.locate hk), h.elsewhere k hne, ← status_eq_of_locate hk, hs]

lemma read_eq_ok {content : ByteArray} : t.read from_ p = .ok content ↔
    ∃ runnable, t.status from_ p = .ok (.file content runnable) := by
  rw [read]
  cases t.status from_ p with
  | error e => simp
  | ok node => cases node <;> simp

lemma ChangesAt.read {content : ByteArray} (h : t.ChangesAt l t') (hp : p.location from_ ≠ l)
    (hr : t.read from_ p = .ok content) : t'.read from_ p = .ok content := by
  obtain ⟨runnable, hs⟩ := read_eq_ok.mp hr
  exact read_eq_ok.mpr ⟨runnable, h.status hp hs⟩

lemma remove_eq_of_locate (h : t.locate from_ p = .ok l) :
    t.remove held from_ p =
      match t.find? l with
      | none => .error (.os .noEntry)
      | some .directory => .error (.os .isDirectory)
      | some (.file _ _) =>
        if p.endsInSlash || p.endsInDot then .error (.os .notDirectory)
        else match held l with
          | some refusal => .error (.os refusal.error)
          | none => .ok (t.erase l) := by
  rw [remove, h]
  rfl

lemma remove_eq_ok (h : t.remove held from_ p = .ok t') :
    t' = t.erase (p.location from_) ∧ t.locate from_ p = .ok (p.location from_) ∧
      t.find? (p.location from_) ≠ some .directory := by
  obtain ⟨k, hk, _⟩ := bind_eq_ok.mp h
  obtain rfl := location_of_locate hk
  rw [remove_eq_of_locate hk] at h
  cases hf : t.find? (p.location from_) with
  | none => simp [hf] at h
  | some node =>
    cases node with
    | directory => simp [hf] at h
    | file content runnable =>
      simp only [hf] at h
      split at h
      · cases h
      cases hheld : held (p.location from_) with
      | some refusal => simp [hheld] at h
      | none =>
        simp only [hheld] at h
        exact ⟨(Except.ok.inj h).symm, hk, nofun⟩

lemma status_of_remove (h : t.remove held from_ p = .error (.os .noEntry)) :
    t.status from_ p = .error (.os .noEntry) := by
  cases hk : t.locate from_ p with
  | error e =>
    rw [remove, hk] at h
    rw [status, hk]
    exact congrArg Except.error (Except.error.inj h)
  | ok k =>
    rw [remove_eq_of_locate hk] at h
    rw [status_eq_of_locate hk]
    cases hf : t.find? k with
    | none => rfl
    | some node =>
      cases node with
      | directory => simp [hf, OsError.isDirectory, OsError.noEntry] at h
      | file content runnable =>
        simp only [hf] at h
        split at h
        · simp [OsError.notDirectory, OsError.noEntry] at h
        cases hheld : held k with
        | none => simp [hheld] at h
        | some refusal =>
          simp only [hheld, Except.error.injEq, IoError.os.injEq] at h
          exact absurd h refusal.present

end Tree

namespace Disk

variable {d d' : Disk} {l : Location} {p : Path}

def location (d : Disk) (p : Path) : Location := p.location d.place

structure ChangesAt (d : Disk) (l : Location) (d' : Disk) : Prop where
  place : d'.place = d.place
  tree : d.tree.ChangesAt l d'.tree

lemma ChangesAt.refl (d : Disk) (l : Location) : d.ChangesAt l d := ⟨rfl, .refl d.tree l⟩

lemma ChangesAt.trans {d'' : Disk} (h : d.ChangesAt l d') (h' : d'.ChangesAt l d'') :
    d.ChangesAt l d'' :=
  ⟨h'.place.trans h.place, h.tree.trans h'.tree⟩

lemma ChangesAt.read {content : ByteArray} (h : d.ChangesAt l d') (hp : d.location p ≠ l)
    (hr : d.read p = .ok content) : d'.read p = .ok content := by
  rw [Disk.read, h.place]
  exact h.tree.read hp hr

lemma readText_eq_ok {text : String} : d.readText p = .ok text ↔
    ∃ content, d.read p = .ok content ∧ String.fromUTF8? content = some text := by
  rw [readText, bind_eq_ok]
  refine exists_congr fun content => and_congr_right fun _ => ?_
  cases String.fromUTF8? content with
  | none => simp
  | some decoded => simp

lemma ChangesAt.readText {text : String} (h : d.ChangesAt l d') (hp : d.location p ≠ l)
    (hr : d.readText p = .ok text) : d'.readText p = .ok text := by
  obtain ⟨content, hread, htext⟩ := readText_eq_ok.mp hr
  exact readText_eq_ok.mpr ⟨content, h.read hp hread, htext⟩

lemma changesAt_of_remove {result : Except IoError Unit} (h : d.remove p = (result, d')) :
    d.ChangesAt (d.location p) d' := by
  rw [remove] at h
  cases hr : d.tree.remove d.held d.place p with
  | error e =>
    simp only [hr] at h
    obtain rfl := (Prod.mk.inj h).2
    exact .refl _ _
  | ok tree =>
    simp only [hr] at h
    obtain rfl := (Prod.mk.inj h).2
    obtain ⟨rfl, _, hfree⟩ := Tree.remove_eq_ok hr
    exact ⟨rfl, Tree.changesAt_erase hfree⟩

lemma find?_of_remove {result : Except IoError Unit} (h : d.remove p = (result, d')) :
    d'.tree.find? (d.location p) = d.tree.find? (d.location p) ∨
      d'.tree.find? (d.location p) = none := by
  rw [remove] at h
  cases hr : d.tree.remove d.held d.place p with
  | error e =>
    simp only [hr] at h
    obtain rfl := (Prod.mk.inj h).2
    exact .inl rfl
  | ok tree =>
    simp only [hr] at h
    obtain rfl := (Prod.mk.inj h).2
    obtain ⟨rfl, _, hfree⟩ := Tree.remove_eq_ok hr
    exact .inr (Tree.find?_erase_self (Tree.ne_nil_of_find? hfree))

lemma isPresent_of_remove (h : d.remove p = (.ok (), d')) : d'.isPresent p = false := by
  rw [remove] at h
  cases hr : d.tree.remove d.held d.place p with
  | error e => simp [hr] at h
  | ok tree =>
    simp only [hr] at h
    obtain rfl := (Prod.mk.inj h).2
    obtain ⟨rfl, hloc, hfree⟩ := Tree.remove_eq_ok hr
    have hafter := (Tree.changesAt_erase hfree).locate hloc
    change Except.isOk (Tree.status _ _ _) = false
    rw [Tree.status_eq_of_locate hafter, Tree.find?_erase_self (Tree.ne_nil_of_find? hfree)]
    rfl

lemma isPresent_of_remove_noEntry (h : d.remove p = (.error (.os .noEntry), d')) :
    d' = d ∧ d.isPresent p = false := by
  rw [remove] at h
  cases hr : d.tree.remove d.held d.place p with
  | error e =>
    simp only [hr, Prod.mk.injEq, Except.error.injEq] at h
    obtain ⟨rfl, rfl⟩ := h
    refine ⟨rfl, ?_⟩
    rw [isPresent, Tree.status_of_remove hr]
    rfl
  | ok tree => simp [hr] at h

end Disk

end DeployForge
