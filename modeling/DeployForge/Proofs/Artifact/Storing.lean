import DeployForge.Proofs.Artifact.Naming
import DeployForge.Proofs.Disk.Reaching

namespace DeployForge

namespace ArtifactStore

variable {store : ArtifactStore} {artifact : Artifact} {path : Path} {d d' d₁ : Disk}
  {t : String}

section Answers

def stored? (store : ArtifactStore) (d : Disk) (t : String) : Option (List UInt8) :=
  (store.load t d).toOption.map (·.bytes)

def fileBytes? (store : ArtifactStore) (d : Disk) (t : String) : Option (List UInt8) :=
  (d.tree.find? (d.location (store.path t))).bind fun
    | .file content _ => some content.toList
    | .directory => none

/-- What is loaded for a target of which these bytes are kept, or none. -/
def Answers (store : ArtifactStore) (target : String) (bytes? : Option (List UInt8))
    (answer : Except Error Artifact) : Prop :=
  match bytes? with
  | some bytes => answer = .ok ⟨target, bytes⟩
  | none => ∃ cause, answer = .error (.read (store.path target) cause)

/-- The file of a target has a name that is not too long, and the path of the directory does not
pass through it. -/
structure Fits (store : ArtifactStore) (d : Disk) (target : String) : Prop where
  short : (target ++ "." ++ Artifact.extension).utf8ByteSize ≤ 255
  aside : d.location (store.path target) ∉ store.dir.inside d.place

/-- Nothing but missing directories keeps an artifact from being stored. -/
structure Admits (store : ArtifactStore) (d : Disk) (artifact : Artifact) : Prop where
  sound : (store.path artifact.target).IsSound
  fits : store.Fits d artifact.target
  undotted : store.dir.endsInDot = false
  clear : d.tree.IsClear (store.dir.start d.place) (store.dir.names ++ [".."])
  free : d.tree.find? (d.location (store.path artifact.target)) ≠ some .directory
  taken : d.medium d.writes artifact.bytes.toByteArray = none

end Answers

section Loading

lemma toList_loop (bytes : ByteArray) (i : ℕ) (read : List UInt8) :
    ByteArray.toList.loop bytes i read = read.reverse ++ bytes.data.toList.drop i := by
  fun_induction ByteArray.toList.loop bytes i read with
  | case1 i read hi ih =>
    have hi' : i < bytes.data.toList.length := hi
    rw [ih, List.reverse_cons, List.append_assoc, List.drop_eq_getElem_cons hi',
      List.singleton_append]
    congr 2
    simp only [ByteArray.get!]
    rw [getElem!_pos bytes.data i hi]
    rfl
  | case2 i read hi =>
    have hi' : bytes.data.toList.length ≤ i := Nat.le_of_not_lt hi
    rw [List.drop_eq_nil_of_le hi', List.append_nil]

lemma toList_toByteArray (bytes : List UInt8) : bytes.toByteArray.toList = bytes := by
  rw [ByteArray.toList, toList_loop, List.data_toByteArray]
  rfl

lemma load_of_read {content : ByteArray} (h : d.read (store.path t) = .ok content) :
    store.load t d = .ok ⟨t, content.toList⟩ := by
  delta load
  simp only [h]

lemma load_of_read_error {cause : IoError} (h : d.read (store.path t) = .error cause) :
    store.load t d = .error (.read (store.path t) cause) := by
  delta load
  simp only [h]

lemma load_congr (h : d'.read (store.path t) = d.read (store.path t)) :
    store.load t d' = store.load t d := by
  delta load
  simp only [h]

lemma stored?_congr (h : store.load t d' = store.load t d) :
    store.stored? d' t = store.stored? d t := by
  rw [stored?, stored?, h]

lemma answers_stored? (store : ArtifactStore) (d : Disk) (t : String) :
    store.Answers t (store.stored? d t) (store.load t d) := by
  cases hread : d.read (store.path t) with
  | error cause =>
    rw [stored?, load_of_read_error hread]
    exact ⟨cause, rfl⟩
  | ok content =>
    rw [stored?, load_of_read hread]
    rfl

lemma stored?_of_answers {bytes? : Option (List UInt8)}
    (h : store.Answers t bytes? (store.load t d)) : store.stored? d t = bytes? := by
  rw [stored?]
  cases bytes? with
  | none =>
    obtain ⟨cause, hload⟩ := h
    rw [hload]
    rfl
  | some bytes =>
    rw [show store.load t d = .ok ⟨t, bytes⟩ from h]
    rfl

lemma load_of_no_file (h : ∀ c r, d.tree.find? (d.location (store.path t)) ≠ some (.file c r)) :
    ∃ cause, store.load t d = .error (.read (store.path t) cause) := by
  cases hread : d.read (store.path t) with
  | error cause => exact ⟨cause, load_of_read_error hread⟩
  | ok content =>
    obtain ⟨runnable, hstatus⟩ := Tree.read_eq_ok.mp hread
    exact absurd (Tree.find?_of_status hstatus) (h content runnable)

lemma stored?_of_no_file (h : ∀ c r, d.tree.find? (d.location (store.path t)) ≠ some (.file c r)) :
    store.stored? d t = none := by
  obtain ⟨cause, hload⟩ := load_of_no_file h
  rw [stored?, hload]
  rfl

lemma stored?_of_absent (h : d.tree.find? (d.location (store.path t)) = none) :
    store.stored? d t = none :=
  stored?_of_no_file (by simp [h])

end Loading

section Places

variable {place : Location} (ht : '/' ∉ t.toList)

include ht

lemma names_path : (store.path t).names =
    store.dir.names ++ [t ++ "." ++ Artifact.extension] :=
  (isPlain_file ht).names_join

lemma start_path : (store.path t).start place = store.dir.start place :=
  (isPlain_file ht).start_join

lemma location_path : (store.path t).location place =
    store.dir.location place ++ [t ++ "." ++ Artifact.extension] :=
  (isPlain_file ht).location_join

lemma location_path_ne {other : String} (hother : '/' ∉ other.toList) (hne : t ≠ other) :
    (store.path t).location place ≠ (store.path other).location place := by
  rw [location_path ht, location_path hother, Ne, List.append_cancel_left_eq, List.singleton_inj,
    file_inj]
  exact hne

lemma locate_path {tree : Tree} (h : tree.IsReached place store.dir)
    (hsound : (store.path t).IsSound)
    (hshort : (t ++ "." ++ Artifact.extension).utf8ByteSize ≤ 255) :
    tree.locate place (store.path t) = .ok ((store.path t).location place) := by
  refine Tree.locate_eq_ok.mpr ⟨hsound, ?_, rfl⟩
  rw [start_path ht, names_path ht, Tree.passes_append]
  exact ⟨h.passes, h.present, .inr hshort, trivial⟩

lemma load_of_reached (h : d.tree.IsReached d.place store.dir)
    (h' : d'.tree.IsReached d'.place store.dir) (hplace : d'.place = d.place)
    (hsame : d'.tree.find? (d.location (store.path t)) = d.tree.find? (d.location (store.path t))) :
    store.load t d' = store.load t d := by
  apply load_congr
  rw [hplace] at h'
  have hwalk := (h'.walk_last (isPlain_file ht).not_up).trans
    (h.walk_last (isPlain_file ht).not_up).symm
  rw [← names_path ht, ← start_path ht] at hwalk
  rw [Disk.read, Disk.read, hplace]
  exact Tree.read_congr (Tree.locate_congr hwalk) hsame

lemma load_of_walk {cause : OsError} (hsound : (store.path t).IsSound)
    (h : d.tree.walk (store.dir.start d.place)
      (store.dir.names ++ [t ++ "." ++ Artifact.extension]) = .error cause) :
    store.load t d = .error (.read (store.path t) (.os cause)) := by
  rw [← start_path ht, ← names_path ht] at h
  apply load_of_read_error
  rw [Disk.read, Tree.read, Tree.status, Tree.locate_of_sound hsound, h]
  rfl

lemma load_of_clear (hsound : (store.path t).IsSound)
    (hclear : d.tree.IsClear (store.dir.start d.place)
      (store.dir.names ++ [t ++ "." ++ Artifact.extension]))
    (hnone : d.tree.find? (d.location (store.path t)) = none) :
    store.load t d = .error (.read (store.path t) (.os .noEntry)) := by
  have hopens : d.tree.Opens d.place (store.path t) := by
    refine ⟨hsound, (isPlain_file ht).endsInSlash_join, (isPlain_file ht).endsInDot_join, ?_⟩
    rw [start_path ht, names_path ht]
    exact hclear
  exact load_of_read_error (hopens.read_of_absent hnone)

end Places

section Persisting

variable {tree : Tree} {runnable : Bool}

/-- What a persist that succeeds does: on the tree with the directories it puts the file. -/
structure Persisted (store : ArtifactStore) (artifact : Artifact) (d d₁ : Disk) (tree : Tree)
    (runnable : Bool) : Prop where
  made : d.tree.createDirectories d.place store.dir = (.ok (), tree)
  target : tree.target d.place (store.path artifact.target) =
    .ok (d.location (store.path artifact.target), runnable)
  taken : d.medium d.writes artifact.bytes.toByteArray = none
  result : d₁ =
    { d with
      tree := tree.insert (d.location (store.path artifact.target))
        (.file artifact.bytes.toByteArray runnable)
      writes := d.writes + 1 }

lemma persist_eq_ok : store.persist artifact d = (.ok path, d₁) ↔
    path = store.path artifact.target ∧
      ∃ tree runnable, store.Persisted artifact d d₁ tree runnable := by
  have hcreate : d.createDirectories store.dir =
      ((d.tree.createDirectories d.place store.dir).1,
        { d with tree := (d.tree.createDirectories d.place store.dir).2 }) := rfl
  rw [persist, hcreate]
  constructor
  · intro h
    rcases hmade : d.tree.createDirectories d.place store.dir with ⟨cause | _, tree⟩
    · simp [hmade] at h
    · simp only [hmade] at h
      rcases hwrite : ({ d with tree } : Disk).write (store.path artifact.target)
        artifact.bytes.toByteArray with ⟨cause | _, m⟩
      · simp [hwrite] at h
      · simp only [hwrite, Prod.mk.injEq, Except.ok.injEq] at h
        obtain ⟨rfl, rfl⟩ := h
        obtain ⟨l, runnable, htarget, htaken, hresult⟩ := Disk.write_eq_ok.mp hwrite
        have hl := Tree.location_of_locate (Tree.isTarget_of_target htarget).located
        subst hl
        exact ⟨rfl, tree, runnable, hmade, htarget, htaken, hresult⟩
  · rintro ⟨rfl, tree, runnable, hmade, htarget, htaken, hresult⟩
    have hwrite : ({ d with tree } : Disk).write (store.path artifact.target)
        artifact.bytes.toByteArray = (.ok (), d₁) :=
      Disk.write_eq_ok.mpr ⟨_, _, htarget, htaken, hresult⟩
    simp only [hmade, hwrite]

namespace Persisted

variable (h : store.Persisted artifact d d₁ tree runnable)

include h

lemma isTarget : tree.IsTarget d.place (store.path artifact.target)
    (d.location (store.path artifact.target)) :=
  Tree.isTarget_of_target h.target

lemma place_eq : d₁.place = d.place := by rw [h.result]

lemma find?_of_ne {k : Location} (hk : k ≠ d.location (store.path artifact.target)) :
    d₁.tree.find? k = tree.find? k := by
  rw [h.result]
  exact Tree.find?_insert_of_ne hk

lemma makes : Tree.Makes (store.dir.inside d.place) d.tree tree := by
  have hmakes := Tree.makes_createDirectories d.tree d.place store.dir
  rwa [h.made] at hmakes

lemma isReached_made (hname : '/' ∉ artifact.target.toList) : tree.IsReached d.place store.dir := by
  obtain ⟨_, hpasses, _⟩ := Tree.locate_eq_ok.mp h.isTarget.located
  rw [names_path hname, start_path hname, Tree.passes_append] at hpasses
  exact ⟨hpasses.1, hpasses.2.1⟩

lemma isReached (hname : '/' ∉ artifact.target.toList) : d₁.tree.IsReached d₁.place store.dir := by
  rw [h.place_eq]
  refine (h.isReached_made hname).mono fun k _ hk => ?_
  rw [h.result]
  exact (Tree.changesAt_insert h.isTarget.free).keeps_directory hk

lemma tree_eq (hreached : d.tree.IsReached d.place store.dir) : tree = d.tree := by
  have hdir := (Tree.createDirectories_eq_ok.mp h.made).1
  have hmade := h.made
  rw [hreached.createDirectories hdir] at hmade
  exact (Prod.mk.inj hmade).2.symm

lemma load_self : store.load artifact.target d₁ = .ok artifact := by
  have hread : d₁.read (store.path artifact.target) = .ok artifact.bytes.toByteArray := by
    rw [h.result]
    exact h.isTarget.read_insert _ _
  rw [load_of_read hread, toList_toByteArray]

lemma base (hname : '/' ∉ artifact.target.toList) :
    d.tree.find? (store.dir.start d.place) = some .directory := by
  have hchain := (Tree.createDirectories_eq_ok.mp h.made).2
  cases hnames : store.dir.names with
  | nil =>
    rw [hnames] at hchain
    obtain rfl : d.tree = tree := (Prod.mk.inj hchain).2
    exact (h.isReached_made hname).directory Path.mem_placesFrom_append
  | cons first rest =>
    rw [hnames] at hchain
    exact (Tree.exists_of_createChain_cons (congrArg Prod.fst hchain)).1.1

lemma isClear (hname : '/' ∉ artifact.target.toList) {last : String}
    (hshort : last.utf8ByteSize ≤ 255) :
    d.tree.IsClear (store.dir.start d.place) (store.dir.names ++ [last]) :=
  Tree.isClear_of_createChain (h.base hname) (.inr hshort)
    (congrArg Prod.fst (Tree.createDirectories_eq_ok.mp h.made).2)

end Persisted

/-- What is in the place of an artifact is reached by the path of the directory. -/
def Sees (store : ArtifactStore) (d : Disk) : Prop :=
  ∀ t, '/' ∉ t.toList → d.tree.find? (d.location (store.path t)) ≠ none →
    d.tree.IsReached d.place store.dir

lemma sees_of_rooted (hrooted : d.tree.IsRooted)
    (hfound : d.tree.find? (d.location store.dir) = some .directory →
      d.tree.IsReached d.place store.dir) : store.Sees d := by
  intro t ht hne
  rw [Disk.location, location_path ht] at hne
  exact hfound (hrooted.directory hne)

lemma Sees.find?_eq_none (hsees : store.Sees d) (ht : '/' ∉ t.toList)
    (hreached : ¬ d.tree.IsReached d.place store.dir) :
    d.tree.find? (d.location (store.path t)) = none := by
  by_contra hsome
  exact hreached (hsees t ht hsome)

lemma Sees.stored?_eq (hsees : store.Sees d) (ht : '/' ∉ t.toList)
    (hsound : (store.path t).IsSound)
    (hshort : (t ++ "." ++ Artifact.extension).utf8ByteSize ≤ 255) :
    store.stored? d t = store.fileBytes? d t := by
  rw [fileBytes?]
  by_cases hreached : d.tree.IsReached d.place store.dir
  · have hlocate := locate_path ht hreached hsound hshort
    have htarget (hfree : d.tree.find? (d.location (store.path t)) ≠ some .directory) :
        d.tree.IsTarget d.place (store.path t) (d.location (store.path t)) :=
      ⟨(isPlain_file ht).endsInSlash_join, (isPlain_file ht).endsInDot_join, hlocate, hfree⟩
    cases hfind : d.tree.find? (d.location (store.path t)) with
    | none => exact stored?_of_absent hfind
    | some node =>
      cases node with
      | directory => exact stored?_of_no_file (by simp [hfind])
      | file content runnable =>
        have hread := (htarget (by simp [hfind])).read_eq hfind
        rw [stored?, load_of_read hread]
        rfl
  · have hnone := hsees.find?_eq_none ht hreached
    rw [hnone, stored?_of_absent hnone]
    rfl

namespace Persisted

variable (h : store.Persisted artifact d d₁ tree runnable)

include h

lemma load_other (hname : '/' ∉ artifact.target.toList) (hsees : store.Sees d)
    (ht : '/' ∉ t.toList) (hne : t ≠ artifact.target) :
    store.Answers t (store.stored? d t) (store.load t d₁) ∧
      (d.tree.IsReached d.place store.dir ∨ store.Fits d t → store.load t d₁ = store.load t d) := by
  have hother : d.location (store.path t) ≠ d.location (store.path artifact.target) :=
    location_path_ne ht hname hne
  have hfind := h.find?_of_ne hother
  by_cases hreached : d.tree.IsReached d.place store.dir
  · have hload : store.load t d₁ = store.load t d :=
      load_of_reached ht hreached (h.isReached hname) h.place_eq
        (hfind.trans (by rw [h.tree_eq hreached]))
    refine ⟨?_, fun _ => hload⟩
    rw [hload]
    exact answers_stored? store d t
  · have hnone := hsees.find?_eq_none ht hreached
    constructor
    · rw [stored?_of_absent hnone]
      refine load_of_no_file fun c r => ?_
      rw [Disk.location, h.place_eq, ← Disk.location, hfind]
      rcases h.makes (d.location (store.path t)) with hsame | ⟨_, _, hdirectory⟩
      · simp [hsame, hnone]
      · simp [hdirectory]
    · intro hfits
      have hfits := hfits.resolve_left hreached
      have hnone' : d₁.tree.find? (d₁.location (store.path t)) = none := by
        rw [Disk.location, h.place_eq, ← Disk.location, hfind, ← hnone]
        exact (h.makes _).resolve_right fun hmade => hfits.aside hmade.1
      by_cases hsound : (store.path t).IsSound
      · rw [load_of_clear ht hsound (h.isClear hname hfits.short) hnone,
          load_of_clear ht hsound ((h.isReached hname).isClear hfits.short) hnone']
      · apply load_congr
        rw [Disk.read, Disk.read, h.place_eq]
        refine Tree.read_congr (Tree.locate_of_not_sound hsound) ?_
        rw [Disk.location, h.place_eq] at hnone'
        exact hnone'.trans hnone.symm

lemma stored?_eq (hname : '/' ∉ artifact.target.toList) (hsees : store.Sees d)
    (ht : '/' ∉ t.toList) :
    store.stored? d₁ t =
      if artifact.target = t then some artifact.bytes else store.stored? d t := by
  by_cases heq : artifact.target = t
  · subst heq
    rw [if_pos rfl, stored?, h.load_self]
    rfl
  · rw [if_neg heq]
    exact stored?_of_answers (h.load_other hname hsees ht (Ne.symm heq)).1

lemma again (hname : '/' ∉ artifact.target.toList)
    (htaken : d₁.medium d₁.writes artifact.bytes.toByteArray = none) :
    store.Persisted artifact d₁ { d₁ with writes := d₁.writes + 1 } d₁.tree runnable := by
  have hfile : d₁.tree.find? (d.location (store.path artifact.target)) =
      some (.file artifact.bytes.toByteArray runnable) := by
    rw [h.result]
    exact Tree.find?_insert_self (Tree.ne_nil_of_find? h.isTarget.free)
  have htarget : d₁.tree.IsTarget d.place (store.path artifact.target)
      (d.location (store.path artifact.target)) := by
    rw [h.result]
    exact h.isTarget.insert _ _
  refine ⟨(h.isReached hname).createDirectories (Tree.createDirectories_eq_ok.mp h.made).1, ?_,
    htaken, ?_⟩
  · rw [Disk.location, h.place_eq]
    exact htarget.target_of_file hfile
  · have hsame : d₁.tree.insert (d.location (store.path artifact.target))
        (.file artifact.bytes.toByteArray runnable) = d₁.tree := by
      rw [h.result]
      exact Tree.insert_insert _ _
    rw [Disk.location, h.place_eq, ← Disk.location, hsame]

end Persisted

lemma persist_again (hname : '/' ∉ artifact.target.toList)
    (h : store.persist artifact d = (.ok path, d₁))
    (htaken : d₁.medium d₁.writes artifact.bytes.toByteArray = none) :
    store.persist artifact d₁ = (.ok path, { d₁ with writes := d₁.writes + 1 }) := by
  obtain ⟨hpath, tree, runnable, hpersisted⟩ := persist_eq_ok.mp h
  exact persist_eq_ok.mpr ⟨hpath, _, _, hpersisted.again hname htaken⟩

lemma dir_sound_of_path (ht : '/' ∉ t.toList) (h : (store.path t).IsSound) :
    store.dir.text.isEmpty = true ∨ store.dir.IsSound := by
  obtain ⟨s, hs⟩ := (Path.exists_text_join (isPlain_file ht).not_absolute store.dir).1
  have htext : (store.path t).text = store.dir.text ++ s := hs
  by_cases hempty : store.dir.text.isEmpty = true
  · exact .inl hempty
  · refine .inr ⟨?_, by simpa using hempty, ?_⟩
    · have hnul := h.noNul
      rw [htext, String.toList_append, List.contains_append, Bool.or_eq_false_iff] at hnul
      exact hnul.1
    · have hshort := h.short
      rw [htext, String.utf8ByteSize_append] at hshort
      exact Nat.le_trans (Nat.le_add_right _ _) hshort

lemma exists_persist_of_admits (hname : '/' ∉ artifact.target.toList)
    (h : store.Admits d artifact) :
    ∃ d₁, store.persist artifact d = (.ok (store.path artifact.target), d₁) := by
  obtain ⟨hok, hfurnished⟩ := Tree.createChain_of_clear false h.clear
  rcases hchain : d.tree.createChain false false (store.dir.start d.place) store.dir.names with
    ⟨result, tree⟩
  rw [hchain] at hok hfurnished
  obtain rfl : result = .ok () := hok
  have hmade : d.tree.createDirectories d.place store.dir = (.ok (), tree) := by
    refine Tree.createDirectories_eq_ok.mpr ⟨dir_sound_of_path hname h.sound, ?_⟩
    rw [h.undotted]
    exact hchain
  have hreached : tree.IsReached d.place store.dir :=
    Tree.isReached_iff.mpr (Tree.passes_of_directories h.clear.short hfurnished.present)
  have hlocate := locate_path hname hreached h.sound h.fits.short
  have htarget : tree.IsTarget d.place (store.path artifact.target)
      (d.location (store.path artifact.target)) := by
    refine ⟨(isPlain_file hname).endsInSlash_join, (isPlain_file hname).endsInDot_join, hlocate, ?_⟩
    rw [hfurnished.elsewhere _ h.fits.aside]
    exact h.free
  obtain ⟨runnable, hrunnable⟩ := htarget.target_eq
  exact ⟨_, persist_eq_ok.mpr ⟨rfl, tree, runnable, hmade, hrunnable, h.taken, rfl⟩⟩

end Persisting

end ArtifactStore

end DeployForge
