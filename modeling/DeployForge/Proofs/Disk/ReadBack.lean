import DeployForge.Proofs.Disk.Places

namespace DeployForge

namespace Tree

variable {t : Tree} {l start : Location} {p : Path}

/-- Where a write to a path goes, when the path names a file or could name one. -/
structure IsTarget (t : Tree) (start : Location) (p : Path) (l : Location) : Prop where
  slash : p.endsInSlash = false
  dot : p.endsInDot = false
  located : t.locate start p = .ok l
  free : t.find? l ≠ some .directory

lemma target_eq_of_locate (hs : ¬ (p.endsInSlash && !p.endsInDot) = true)
    (h : t.locate start p = .ok l) :
    t.target start p =
      match t.find? l with
      | some .directory => .error (.os .isDirectory)
      | some (.file _ runnable) =>
        if p.endsInDot then .error (.os .notDirectory) else .ok (l, runnable)
      | none => if p.endsInDot then .error (.os .noEntry) else .ok (l, false) := by
  rw [target, if_neg hs, h]
  rfl

lemma isTarget_of_target {runnable : Bool} (h : t.target start p = .ok (l, runnable)) :
    t.IsTarget start p l := by
  rw [target] at h
  by_cases hs : (p.endsInSlash && !p.endsInDot) = true
  · rw [if_pos hs] at h
    obtain ⟨_, _, h⟩ := bind_eq_ok.mp h
    cases h
  rw [if_neg hs] at h
  obtain ⟨k, hk, h⟩ := bind_eq_ok.mp h
  have hdot : p.endsInDot = false := by
    by_contra hd
    rw [Bool.not_eq_false] at hd
    simp only [hd, if_true] at h
    split at h <;> cases h
  have hslash : p.endsInSlash = false := by simpa [hdot] using hs
  simp only [hdot] at h
  cases hf : t.find? k with
  | none =>
    simp only [hf] at h
    cases h
    exact ⟨hslash, hdot, hk, by simp [hf]⟩
  | some node =>
    cases node with
    | directory =>
      simp only [hf] at h
      cases h
    | file content r =>
      simp only [hf] at h
      cases h
      exact ⟨hslash, hdot, hk, by simp [hf]⟩

lemma IsTarget.insert (h : t.IsTarget start p l) (content : ByteArray) (runnable : Bool) :
    (t.insert l (.file content runnable)).IsTarget start p l :=
  ⟨h.slash, h.dot, (changesAt_insert h.free).locate h.located,
    by simp [find?_insert_self (ne_nil_of_find? h.free)]⟩

lemma IsTarget.read_insert (h : t.IsTarget start p l) (content : ByteArray) (runnable : Bool) :
    (t.insert l (.file content runnable)).read start p = .ok content := by
  have hfind : (t.insert l (.file content runnable)).find? l = some (.file content runnable) :=
    find?_insert_self (ne_nil_of_find? h.free)
  have hstatus : (t.insert l (.file content runnable)).status start p =
      .ok (.file content runnable) := by
    rw [status_eq_of_locate ((changesAt_insert h.free).locate h.located), hfind]
    simp [h.slash, h.dot]
  rw [read, hstatus]

lemma isTarget_of_status {content : ByteArray} {runnable : Bool}
    (h : t.status start p = .ok (.file content runnable)) :
    t.IsTarget start p (p.location start) := by
  obtain ⟨l, hl, _⟩ := bind_eq_ok.mp h
  obtain rfl := location_of_locate hl
  rw [status_eq_of_locate hl] at h
  cases hf : t.find? (p.location start) with
  | none => simp [hf] at h
  | some node =>
    cases node with
    | directory => simp [hf] at h
    | file c r =>
      simp only [hf] at h
      split at h
      · cases h
      · next hplain =>
        rw [Bool.not_eq_true, Bool.or_eq_false_iff] at hplain
        exact ⟨hplain.1, hplain.2, hl, by simp [hf]⟩

lemma find?_of_status {content : ByteArray} {runnable : Bool}
    (h : t.status start p = .ok (.file content runnable)) :
    t.find? (p.location start) = some (.file content runnable) := by
  have htarget := isTarget_of_status h
  rw [status_eq_of_locate htarget.located] at h
  cases hf : t.find? (p.location start) with
  | none => simp [hf] at h
  | some node =>
    cases node with
    | directory => simp [hf] at h
    | file c r => simpa [hf, htarget.slash, htarget.dot] using h

lemma IsTarget.target_eq (h : t.IsTarget start p l) : ∃ r, t.target start p = .ok (l, r) := by
  have hs : ¬ (p.endsInSlash && !p.endsInDot) = true := by simp [h.slash]
  rw [target_eq_of_locate hs h.located]
  cases hf : t.find? l with
  | none => exact ⟨false, by simp [h.dot]⟩
  | some node =>
    cases node with
    | directory => exact absurd hf h.free
    | file c r => exact ⟨r, by simp [h.dot]⟩

lemma IsTarget.target_of_file {content : ByteArray} {runnable : Bool} (h : t.IsTarget start p l)
    (hf : t.find? l = some (.file content runnable)) : t.target start p = .ok (l, runnable) := by
  have hs : ¬ (p.endsInSlash && !p.endsInDot) = true := by simp [h.slash]
  rw [target_eq_of_locate hs h.located, hf]
  simp [h.dot]

end Tree

namespace Disk

variable {d d' : Disk} {p : Path}

lemma changesAt_of_write {content : ByteArray} {result : Except IoError Unit}
    (h : d.write p content = (result, d')) : d.ChangesAt (d.location p) d' := by
  rw [write] at h
  cases ht : d.tree.target d.place p with
  | error e =>
    simp only [ht] at h
    obtain rfl := (Prod.mk.inj h).2
    exact .refl _ _
  | ok target =>
    obtain ⟨l, runnable⟩ := target
    have htarget := Tree.isTarget_of_target ht
    obtain rfl := Tree.location_of_locate htarget.located
    simp only [ht, store] at h
    split at h
    · obtain rfl := (Prod.mk.inj h).2
      exact ⟨rfl, Tree.changesAt_insert htarget.free⟩
    · obtain rfl := (Prod.mk.inj h).2
      exact ⟨rfl, .refl _ _⟩
    · obtain rfl := (Prod.mk.inj h).2
      exact ⟨rfl, Tree.changesAt_insert htarget.free⟩

lemma write_eq_ok {content : ByteArray} : d.write p content = (.ok (), d') ↔
    ∃ l runnable, d.tree.target d.place p = .ok (l, runnable) ∧
      d.medium d.writes content = none ∧
        d' = { d with
          tree := d.tree.insert l (.file content runnable)
          writes := d.writes + 1 } := by
  rw [write]
  cases ht : d.tree.target d.place p with
  | error e => simp
  | ok target =>
    obtain ⟨l, runnable⟩ := target
    simp only [store]
    cases hm : d.medium d.writes content with
    | none =>
      constructor
      · intro h
        exact ⟨l, runnable, rfl, rfl, (Prod.mk.inj h).2.symm⟩
      · rintro ⟨l', runnable', htarget, -, rfl⟩
        cases htarget
        rfl
    | some fault => obtain ⟨_ | n, e⟩ := fault <;> simp

lemma read_of_write {content : ByteArray} (h : d.write p content = (.ok (), d')) :
    d'.read p = .ok content := by
  obtain ⟨l, runnable, ht, -, rfl⟩ := write_eq_ok.mp h
  exact (Tree.isTarget_of_target ht).read_insert content runnable

lemma fromUTF8?_toUTF8 (s : String) : String.fromUTF8? s.toUTF8 = some s :=
  dif_pos s.isValidUTF8

lemma readText_of_writeText {text : String} (h : d.writeText p text = (.ok (), d')) :
    d'.readText p = .ok text :=
  readText_eq_ok.mpr ⟨text.toUTF8, read_of_write h, fromUTF8?_toUTF8 text⟩

end Disk

end DeployForge
