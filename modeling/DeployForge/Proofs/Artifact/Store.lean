import DeployForge.Proofs.Artifact.Storing
import Mathlib.Data.String.Basic

/-!
The artifact store as a map from targets to bytes. What is read is what was persisted last, or what
was there before, as long as other programs spare the directory and its path does not come upon it
only once directories were made.
-/

namespace DeployForge

namespace ArtifactStore

variable {store : ArtifactStore} {artifact : Artifact} {path : Path} {d d' d₁ : Disk}
  {t : String}

section Courses

inductive Event
  | persisted (artifact : Artifact)
  | loaded (target : String) (answer : Except Error Artifact)

def Event.target : Event → String
  | .persisted artifact => artifact.target
  | .loaded target _ => target

def Event.bytesFor? (t : String) : Event → Option (List UInt8)
  | .persisted artifact => if artifact.target = t then some artifact.bytes else none
  | .loaded _ _ => none

def lastFor? (events : List Event) (t : String) : Option (List UInt8) :=
  events.reverse.findSome? (Event.bytesFor? t)

/-- Nothing in the directory changes, and the directories on its way stay. -/
structure Spares (store : ArtifactStore) (d d' : Disk) : Prop where
  place : d'.place = d.place
  way : ∀ k ∈ store.dir.inside d.place, d.tree.find? k = some .directory →
    d'.tree.find? k = some .directory
  inside : ∀ k, d.location store.dir <+: k → d'.tree.find? k = d.tree.find? k

/-- Calls of which every persist succeeds, and between them changes by others that spare the
directory. -/
inductive Course (store : ArtifactStore) : Disk → List Event → Disk → Prop
  | done (d : Disk) : Course store d [] d
  | persist {artifact : Artifact} {path : Path} {d d₁ d' : Disk} {events : List Event}
      (h : store.persist artifact d = (.ok path, d₁)) (rest : Course store d₁ events d') :
      Course store d (.persisted artifact :: events) d'
  | load {d d' : Disk} {events : List Event} (target : String) (rest : Course store d events d') :
      Course store d (.loaded target (store.load target d) :: events) d'
  | others {d d₁ d' : Disk} {events : List Event} (h : store.Spares d d₁)
      (rest : Course store d₁ events d') : Course store d events d'

/-- The store keeps these bytes for its targets. What is persisted for one of them leaves the others
alone, makes the directories that are missing and no others, and is put there once for all. -/
structure Keeps (store : ArtifactStore) (d : Disk) (kept : String → Option (List UInt8)) :
    Prop where
  load : ∀ t, '/' ∉ t.toList → store.Answers t (kept t) (store.load t d)
  others : ∀ artifact path d₁, '/' ∉ artifact.target.toList →
    store.persist artifact d = (.ok path, d₁) → ∀ t, '/' ∉ t.toList → t ≠ artifact.target →
      store.Answers t (kept t) (store.load t d₁) ∧
        (d.tree.IsReached d.place store.dir ∨ store.Fits d t → store.load t d₁ = store.load t d)
  admits : ∀ artifact, '/' ∉ artifact.target.toList → store.Admits d artifact →
    ∃ d₁, store.persist artifact d = (.ok (store.path artifact.target), d₁)
  directories : ∀ artifact path d₁, '/' ∉ artifact.target.toList →
    store.persist artifact d = (.ok path, d₁) →
      (∀ k ∈ store.dir.inside d.place, d₁.tree.find? k = some .directory) ∧
        ∀ k ≠ d.location path, Tree.MakesAt (store.dir.inside d.place) k d.tree d₁.tree
  again : ∀ artifact path d₁, '/' ∉ artifact.target.toList →
    store.persist artifact d = (.ok path, d₁) →
      (∀ path' d₂, store.persist artifact d₁ = (.ok path', d₂) →
        path' = path ∧ d₂.place = d₁.place ∧ d₂.tree = d₁.tree) ∧
      (d₁.medium d₁.writes artifact.bytes.toByteArray = none →
        ∃ d₂, store.persist artifact d₁ = (.ok path, d₂))

end Courses

section Keeping

lemma keeps_of_sees (hsees : store.Sees d) : store.Keeps d (store.stored? d) where
  load t _ := answers_stored? store d t
  others artifact path d₁ hname h t ht hne := by
    obtain ⟨_, tree, runnable, hpersisted⟩ := persist_eq_ok.mp h
    exact hpersisted.load_other hname hsees ht hne
  admits artifact hname h := exists_persist_of_admits hname h
  directories artifact path d₁ hname h := by
    obtain ⟨rfl, tree, runnable, hpersisted⟩ := persist_eq_ok.mp h
    have hreached := hpersisted.isReached hname
    rw [hpersisted.place_eq] at hreached
    refine ⟨fun k hk => hreached.directory hk, fun k hk => ?_⟩
    rw [Tree.MakesAt, hpersisted.find?_of_ne hk]
    exact hpersisted.makes k
  again artifact path d₁ hname h := by
    refine ⟨fun path' d₂ h' => ?_, fun htaken => ⟨_, persist_again hname h htaken⟩⟩
    obtain ⟨_, _, _, hpersisted⟩ := persist_eq_ok.mp h'
    rw [persist_again hname h hpersisted.taken] at h'
    obtain ⟨hpath, rfl⟩ := Prod.mk.inj h'
    exact ⟨(Except.ok.inj hpath).symm, rfl, rfl⟩

lemma Keeps.congr {kept kept' : String → Option (List UInt8)} (h : store.Keeps d kept)
    (heq : ∀ t, '/' ∉ t.toList → kept t = kept' t) : store.Keeps d kept' where
  load t ht := heq t ht ▸ h.load t ht
  others artifact path d₁ hname hpersist t ht hne :=
    heq t ht ▸ h.others artifact path d₁ hname hpersist t ht hne
  admits := h.admits
  directories := h.directories
  again := h.again

end Keeping

section Sparing

variable (h : store.Spares d d₁)

include h

lemma Spares.isReached (hreached : d.tree.IsReached d.place store.dir) :
    d₁.tree.IsReached d₁.place store.dir := by
  rw [h.place]
  exact hreached.mono h.way

lemma Spares.find?_path (ht : '/' ∉ t.toList) :
    d₁.tree.find? (d.location (store.path t)) = d.tree.find? (d.location (store.path t)) := by
  refine h.inside _ ?_
  rw [Disk.location, Disk.location, location_path ht]
  exact List.prefix_append _ _

lemma Spares.sees (hsees : store.Sees d) : store.Sees d₁ := by
  intro t ht hne
  rw [Disk.location, h.place, ← Disk.location, h.find?_path ht] at hne
  exact h.isReached (hsees t ht hne)

lemma Spares.stored?_eq (hsees : store.Sees d) (ht : '/' ∉ t.toList) :
    store.stored? d₁ t = store.stored? d t := by
  by_cases hreached : d.tree.IsReached d.place store.dir
  · exact stored?_congr
      (load_of_reached ht hreached (h.isReached hreached) h.place (h.find?_path ht))
  · have hnone := hsees.find?_eq_none ht hreached
    have hnone' : d₁.tree.find? (d₁.location (store.path t)) = none := by
      rw [Disk.location, h.place, ← Disk.location, h.find?_path ht, hnone]
    rw [stored?_of_absent hnone, stored?_of_absent hnone']

end Sparing

section Calls

variable {events before after : List Event} {answer : Except Error Artifact}

lemma lastFor?_cons (event : Event) (events : List Event) (t : String) :
    lastFor? (event :: events) t = (lastFor? events t).or (event.bytesFor? t) := by
  rw [lastFor?, List.reverse_cons, List.findSome?_append, List.findSome?_singleton, ← lastFor?]

namespace Course

lemma keeps (h : store.Course d events d') (hplain : ∀ e ∈ events, '/' ∉ e.target.toList)
    (hsees : store.Sees d) : store.Sees d' ∧ ∀ t, '/' ∉ t.toList →
      store.stored? d' t = (lastFor? events t).or (store.stored? d t) := by
  induction h with
  | done d => exact ⟨hsees, fun t _ => rfl⟩
  | persist h rest ih =>
    obtain ⟨rfl, tree, runnable, hpersisted⟩ := persist_eq_ok.mp h
    have hname := hplain _ List.mem_cons_self
    have hsees' : store.Sees _ := fun _ _ _ => hpersisted.isReached hname
    obtain ⟨hend, hstored⟩ := ih (fun e he => hplain e (List.mem_cons_of_mem _ he)) hsees'
    refine ⟨hend, fun t ht => ?_⟩
    rw [hstored t ht, hpersisted.stored?_eq hname hsees ht, lastFor?_cons, Option.or_assoc,
      Event.bytesFor?]
    split <;> rfl
  | load target rest ih =>
    obtain ⟨hend, hstored⟩ := ih (fun e he => hplain e (List.mem_cons_of_mem _ he)) hsees
    refine ⟨hend, fun t ht => ?_⟩
    rw [hstored t ht, lastFor?_cons, Event.bytesFor?, Option.or_none]
  | others h rest ih =>
    obtain ⟨hend, hstored⟩ := ih hplain (h.sees hsees)
    refine ⟨hend, fun t ht => ?_⟩
    rw [hstored t ht, h.stored?_eq hsees ht]

lemma exists_before (h : store.Course d events d')
    (hevents : events = before ++ .loaded t answer :: after) :
    ∃ m, store.Course d before m ∧ answer = store.load t m := by
  induction h generalizing before with
  | done d => simp at hevents
  | persist h rest ih =>
    cases before with
    | nil => cases hevents
    | cons event before =>
      obtain ⟨rfl, hrest⟩ := List.cons.inj hevents
      obtain ⟨m, hbefore, hanswer⟩ := ih hrest
      exact ⟨m, .persist h hbefore, hanswer⟩
  | @load d _ _ target rest ih =>
    cases before with
    | nil =>
      cases hevents
      exact ⟨d, .done d, rfl⟩
    | cons event before =>
      obtain ⟨rfl, hrest⟩ := List.cons.inj hevents
      obtain ⟨m, hbefore, hanswer⟩ := ih hrest
      exact ⟨m, .load target hbefore, hanswer⟩
  | others h rest ih =>
    obtain ⟨m, hbefore, hanswer⟩ := ih hevents
    exact ⟨m, .others h hbefore, hanswer⟩

end Course

/-- In every course of calls the store answers with what was persisted last, or with what it had at
the start, if its path leads to the directory that is there. -/
theorem keeps_last_persisted (h : store.Course d events d')
    (hplain : ∀ e ∈ events, '/' ∉ e.target.toList) (hrooted : d.tree.IsRooted)
    (hfound : d.tree.find? (d.location store.dir) = some .directory →
      d.tree.IsReached d.place store.dir) :
    (∀ before t answer after, events = before ++ .loaded t answer :: after →
      store.Answers t ((lastFor? before t).or (store.stored? d t)) answer) ∧
    (store.Keeps d' fun t => (lastFor? events t).or (store.stored? d t)) ∧
    ∀ t, '/' ∉ t.toList → (store.path t).IsSound →
      (t ++ "." ++ Artifact.extension).utf8ByteSize ≤ 255 →
        store.stored? d t = store.fileBytes? d t := by
  have hsees := sees_of_rooted hrooted hfound
  refine ⟨?_, ?_, fun t ht hsound hshort => hsees.stored?_eq ht hsound hshort⟩
  · rintro before t answer after rfl
    obtain ⟨m, hbefore, rfl⟩ := h.exists_before rfl
    have hstored := (hbefore.keeps (fun e he => hplain e (List.mem_append_left _ he)) hsees).2 t
      (hplain (.loaded t (store.load t m)) (by simp))
    rw [← hstored]
    exact answers_stored? store m t
  · obtain ⟨hsees', hstored⟩ := h.keeps hplain hsees
    exact (keeps_of_sees hsees').congr hstored

def shelf : ArtifactStore := ⟨⟨"build/out"⟩⟩

def workshop : Disk := { tree := ⟨[(["build"], .directory)]⟩ }

def first : Artifact := ⟨"Offer", [0xb5, 0xee, 0x9c]⟩

/-- An artifact whose target is named like the file of another. -/
def namesake : Artifact := ⟨"Offer.boc", [0x72]⟩

def second : Artifact := ⟨"Offer", [0x00]⟩

def calls : List Event :=
  [.loaded "Offer" (shelf.load "Offer" workshop), .persisted first, .persisted namesake,
    .persisted second]

lemma persist_of_toOption (path : Path) (h : (store.persist artifact d).1.toOption = some path) :
    store.persist artifact d = (.ok path, (store.persist artifact d).2) :=
  Prod.ext (toOption_eq_some.mp h) rfl

theorem keeps_last_persisted_shelf :
    ∃ d', shelf.Course workshop calls d' ∧ (∀ e ∈ calls, '/' ∉ e.target.toList) ∧
      workshop.tree.IsRooted ∧
      workshop.tree.find? (workshop.location shelf.dir) ≠ some .directory ∧
      (∃ cause, shelf.load "Offer" workshop = .error (.read (shelf.path "Offer") cause)) ∧
      shelf.load "Offer" d' = .ok second ∧ shelf.load "Offer.boc" d' = .ok namesake := by
  have hcourse : ∃ d', shelf.Course workshop calls d' := by
    refine ⟨_, .load "Offer" (.persist (persist_of_toOption ⟨"build/out/Offer.boc"⟩ ?_)
      (.persist (persist_of_toOption ⟨"build/out/Offer.boc.boc"⟩ ?_)
        (.persist (persist_of_toOption ⟨"build/out/Offer.boc"⟩ ?_) (.done _))))⟩
    all_goals decide +kernel
  obtain ⟨d', hcourse⟩ := hcourse
  have hplain : ∀ e ∈ calls, '/' ∉ e.target.toList := by
    simp only [calls, List.forall_mem_cons]
    decide
  have hrooted : workshop.tree.IsRooted := by
    simp only [Tree.IsRooted, workshop, List.forall_mem_cons]
    decide
  have hmissing : workshop.tree.find? (workshop.location shelf.dir) ≠ some .directory := by
    decide +kernel
  obtain ⟨hbefore, hkeeps, _⟩ := keeps_last_persisted hcourse hplain hrooted
    fun hthere => absurd hthere hmissing
  have hnone : shelf.stored? workshop "Offer" = none := by decide +kernel
  have hload := hbefore [] "Offer" _ _ rfl
  rw [hnone] at hload
  exact ⟨d', hcourse, hplain, hrooted, hmissing, hload, hkeeps.load "Offer" (by decide),
    hkeeps.load "Offer.boc" (by decide)⟩

def detour : ArtifactStore := ⟨⟨"build/tmp/../out"⟩⟩

def stocked : Disk :=
  { tree := ⟨[(["build"], .directory), (["build", "out"], .directory),
      (["build", "out", "Offer.boc"], .file [0xb5, 0xee].toByteArray false)]⟩ }

def lettered (n : ℕ) : String := .ofList (List.replicate n 'x')

lemma plain_lettered (n : ℕ) : '/' ∉ (lettered n).toList := by
  rw [lettered, String.toList_ofList, List.mem_replicate]
  simp

lemma utf8ByteSize_lettered (n : ℕ) : (lettered n).utf8ByteSize = n := by
  rw [lettered, String.utf8ByteSize_ofList]
  induction n with
  | zero => rfl
  | succ n ih =>
    rw [List.replicate_succ, String.utf8Len_cons, ih]
    rfl

lemma text_lettered (n : ℕ) :
    (shelf.path (lettered n)).text = "build/out/" ++ lettered n ++ ".boc" := by
  rcases Path.join_cases (isPlain_file (plain_lettered n)).not_absolute shelf.dir with
    ⟨htext, _⟩ | ⟨s, hs, _⟩ | ⟨_, hjoin⟩
  · exact absurd htext (by decide)
  · have hlast := congrArg (fun text => text.toList.getLast?) hs
    simp [shelf] at hlast
  · rw [path, hjoin]
    simp [shelf, Artifact.extension, ← String.toList_inj]

lemma sound_lettered {n : ℕ} (hn : n ≤ 4000) : (shelf.path (lettered n)).IsSound where
  noNul := by
    rw [text_lettered]
    simp [lettered, List.mem_replicate]
  nonempty := by simp [text_lettered]
  short := by
    rw [text_lettered, String.utf8ByteSize_append, String.utf8ByteSize_append,
      utf8ByteSize_lettered]
    have hdir : "build/out/".utf8ByteSize = 10 := by decide
    have hext : ".boc".utf8ByteSize = 4 := by decide
    omega

/-- What is persisted for one target may uncover the artifact of another, and may change why there
is none. -/
theorem not_unchanged_detour :
    (∃ d₁, detour.persist namesake stocked = (.ok (detour.path namesake.target), d₁) ∧
      (∃ cause, detour.load "Offer" stocked = .error (.read (detour.path "Offer") cause)) ∧
      detour.load "Offer" d₁ = .ok ⟨"Offer", [0xb5, 0xee]⟩) ∧
    ∃ d₁, shelf.persist first workshop = (.ok (shelf.path first.target), d₁) ∧
      shelf.load (lettered 252) workshop =
        .error (.read (shelf.path (lettered 252)) (.os .noEntry)) ∧
      shelf.load (lettered 252) d₁ =
        .error (.read (shelf.path (lettered 252)) (.os .nameTooLong)) := by
  constructor
  · refine ⟨_, persist_of_toOption _ (by decide +kernel), ⟨.os .noEntry, ?_⟩, ?_⟩
    · exact load_of_read_error (by decide +kernel)
    · exact toOption_eq_some.mp (by decide +kernel)
  · have hstored : (shelf.persist first workshop).1.toOption = some (shelf.path first.target) := by
      decide +kernel
    have hfirst := persist_of_toOption _ hstored
    have hplain := plain_lettered 252
    have hsound : (shelf.path (lettered 252)).IsSound := sound_lettered (by decide)
    refine ⟨_, hfirst, load_of_walk hplain hsound rfl, ?_⟩
    obtain ⟨_, _, _, hpersisted⟩ := persist_eq_ok.mp hfirst
    refine load_of_walk hplain hsound ?_
    rw [(hpersisted.isReached (by decide)).walk_last (isPlain_file hplain).not_up, if_pos]
    rw [String.utf8ByteSize_append, String.utf8ByteSize_append, utf8ByteSize_lettered]
    decide

end Calls

end ArtifactStore

end DeployForge
