import DeployForge.Artifact
import DeployForge.Proofs.Disk.Furnishing
import DeployForge.Proofs.Disk.Joining
import DeployForge.Proofs.Registry
import Mathlib.Data.List.Nodup

/-!
Which names have artifacts of their own. A registry tells names apart by their text, but the name is
part of a path, and a slash in it may lead to another directory or to the artifact of another name.
-/

namespace DeployForge

variable {store : ArtifactStore} {name other : String} {d d' : Disk}

namespace Path

/-- `p` is an entry of the directory `base`, whatever is there. -/
structure IsChildOf (p base : Path) : Prop where
  side : p.isAbsolute = base.isAbsolute
  below : ∃ name, name ≠ ".." ∧ p.names = base.names ++ [name]

def Same (p q : Path) : Prop := p.isAbsolute = q.isAbsolute ∧ p.names = q.names

lemma IsChildOf.exists_location {p base : Path} (h : p.IsChildOf base) (from_ : Location) :
    ∃ name, p.location from_ = base.location from_ ++ [name] := by
  obtain ⟨name, hup, hnames⟩ := h.below
  exact ⟨name, location_of_names h.side hnames hup⟩

lemma IsChildOf.location_ne {p q base : Path} (hp : p.IsChildOf base) (hq : q.IsChildOf base)
    (hpq : ¬ p.Same q) (from_ : Location) : p.location from_ ≠ q.location from_ := by
  obtain ⟨name, hup, hnames⟩ := hp.below
  obtain ⟨name', hup', hnames'⟩ := hq.below
  rw [location_of_names hp.side hnames hup, location_of_names hq.side hnames' hup']
  intro heq
  obtain rfl : name = name' := by simpa using heq
  exact hpq ⟨hp.side.trans hq.side.symm, hnames.trans hnames'.symm⟩

end Path

namespace ArtifactStore

section Names

/-- The names have artifacts of their own, all of them entries of the directory. Whatever comes of
storing one, of all that was there outside the directory or belongs to another name nothing
changes; outside, only directories are made on the way. -/
structure KeepsApart (store : ArtifactStore) (names : List String) : Prop where
  child : ∀ name ∈ names, (store.path name).IsChildOf store.dir
  apart : ∀ name ∈ names, ∀ other ∈ names, name ≠ other →
    ¬ (store.path name).Same (store.path other)
  outside : ∀ name ∈ names, ∀ bytes d k, ¬ d.location store.dir <+: k →
    Tree.MakesAt (store.dir.inside d.place) k d.tree (store.persist ⟨name, bytes⟩ d).2.tree
  others : ∀ name ∈ names, ∀ other ∈ names, name ≠ other → ∀ bytes d,
    d.tree.find? (d.location (store.path other)) ≠ none →
      (store.persist ⟨name, bytes⟩ d).2.tree.find? (d.location (store.path other)) =
        d.tree.find? (d.location (store.path other))

/-- A name that leads to no other directory: before its last slash it stays in place. -/
structure StaysPut (name : String) : Prop where
  relative : (⟨name⟩ : Path).isAbsolute = false
  lead : ∀ piece ∈ (Text.splitAt '/' name.toList).dropLast, piece = [] ∨ piece = ['.']

def lastPart (name : String) : String := .ofList ((Text.splitAt '/' name.toList).getLastD [])

end Names

section Files

def leadNames (name : String) : List String :=
  ((Text.splitAt '/' name.toList).dropLast.filter fun piece => piece ≠ [] ∧ piece ≠ ['.']).map
    String.ofList

lemma toList_file (name : String) :
    (name ++ "." ++ Artifact.extension).toList = name.toList ++ ".boc".toList := by
  simp [Artifact.extension]

lemma toList_file_ne (name : String) {s : List Char} (hs : s.length < 4) :
    (name ++ "." ++ Artifact.extension).toList ≠ s := by
  rintro rfl
  have hext : ".boc".toList.length = 4 := rfl
  rw [toList_file, List.length_append] at hs
  omega

lemma isAbsolute_file (name : String) :
    (⟨name ++ "." ++ Artifact.extension⟩ : Path).isAbsolute = (⟨name⟩ : Path).isAbsolute := by
  rw [Path.isAbsolute, Path.isAbsolute, toList_file]
  cases name.toList <;> simp

lemma names_file (name : String) : (⟨name ++ "." ++ Artifact.extension⟩ : Path).names =
    leadNames name ++ [lastPart name ++ "." ++ Artifact.extension] := by
  have hext : '/' ∉ ".boc".toList := by decide
  have hlast : String.ofList ((Text.splitAt '/' name.toList).getLastD [] ++ ".boc".toList) =
      lastPart name ++ "." ++ Artifact.extension := by
    rw [← String.toList_inj, String.toList_ofList, toList_file, lastPart, String.toList_ofList,
      String.toList_ofList]
  have hkept (s : List Char) : s ++ ".boc".toList ≠ [] ∧ s ++ ".boc".toList ≠ ['.'] :=
    ⟨by simp, fun h => by simpa using congrArg List.length h⟩
  rw [Path.names, toList_file, Text.splitAt_append hext, List.filter_append, List.map_append,
    ← hlast]
  simp only [List.filter_cons, hkept, ne_eq, not_false_eq_true, and_self, decide_true, if_true,
    List.filter_nil, List.map_cons, List.map_nil]
  rfl

lemma leadNames_eq_nil :
    leadNames name = [] ↔
      ∀ piece ∈ (Text.splitAt '/' name.toList).dropLast, piece = [] ∨ piece = ['.'] := by
  rw [leadNames, List.map_eq_nil_iff, List.filter_eq_nil_iff]
  refine forall₂_congr fun piece _ => ?_
  simp only [decide_eq_true_eq]
  tauto

lemma file_inj :
    name ++ "." ++ Artifact.extension = other ++ "." ++ Artifact.extension ↔ name = other := by
  rw [← String.toList_inj, toList_file, toList_file, List.append_cancel_right_eq, String.toList_inj]

lemma isPlain_file (hname : '/' ∉ name.toList) :
    Path.IsPlain (name ++ "." ++ Artifact.extension) := by
  refine ⟨?_, toList_file_ne name (by decide), toList_file_ne name (by decide), fun hup => ?_⟩
  · rw [toList_file, List.mem_append, not_or]
    exact ⟨hname, by decide⟩
  · exact toList_file_ne name (by decide) (congrArg String.toList hup)

lemma changes_of_persist (store : ArtifactStore) (artifact : Artifact) (d : Disk) : ∃ m : Disk,
    m.place = d.place ∧ Tree.Makes (store.dir.inside d.place) d.tree m.tree ∧
      m.ChangesAt (m.location (store.path artifact.target)) (store.persist artifact d).2 := by
  rw [persist]
  rcases hmake : d.createDirectories store.dir with ⟨cause | _, m⟩
  all_goals
    obtain ⟨hplace, hmakes⟩ := Disk.makes_createDirectories hmake
    refine ⟨m, hplace, hmakes, ?_⟩
  · exact .refl _ _
  · rcases hwrite : m.write (store.path artifact.target) artifact.bytes.toByteArray with
      ⟨cause | _, d'⟩
    all_goals
      simp only [hwrite]
      exact Disk.changesAt_of_write hwrite

end Files

section Apart

variable {names : List String}

lemma keepsApart_of_child (hchild : ∀ name ∈ names, (store.path name).IsChildOf store.dir)
    (hapart : ∀ name ∈ names, ∀ other ∈ names, name ≠ other →
      ¬ (store.path name).Same (store.path other)) : store.KeepsApart names where
  child := hchild
  apart := hapart
  outside name hname bytes d k hk := by
    obtain ⟨m, hplace, hmakes, hchanges⟩ := changes_of_persist store ⟨name, bytes⟩ d
    obtain ⟨file, hfile⟩ := (hchild name hname).exists_location m.place
    have hne : k ≠ m.location (store.path name) := by
      rintro rfl
      rw [Disk.location, Disk.location, hfile, hplace] at hk
      exact hk (List.prefix_append _ _)
    rw [Tree.MakesAt, hchanges.tree.elsewhere k hne]
    exact hmakes k
  others name hname other hother hne bytes d hthere := by
    obtain ⟨m, hplace, hmakes, hchanges⟩ := changes_of_persist store ⟨name, bytes⟩ d
    have hplaces : d.location (store.path other) ≠ m.location (store.path name) := by
      rw [Disk.location, Disk.location, hplace]
      exact (hchild other hother).location_ne (hchild name hname)
        (hapart other hother name hname hne.symm) d.place
    rw [hchanges.tree.elsewhere _ hplaces]
    exact (hmakes _).eq_of_ne_none hthere

namespace StaysPut

variable (h : StaysPut name)

include h

lemma names_path (store : ArtifactStore) : (store.path name).names =
    store.dir.names ++ [lastPart name ++ "." ++ Artifact.extension] := by
  have hrelative := (isAbsolute_file name).trans h.relative
  rw [path, Path.names_join hrelative, names_file, leadNames_eq_nil.mpr h.lead, List.nil_append]

lemma isChildOf (store : ArtifactStore) : (store.path name).IsChildOf store.dir where
  side := Path.isAbsolute_join ((isAbsolute_file name).trans h.relative) store.dir
  below := by
    refine ⟨_, fun hup => ?_, h.names_path store⟩
    exact toList_file_ne _ (by decide) (congrArg String.toList hup)

end StaysPut

lemma path_here (name : String) :
    (⟨⟨""⟩⟩ : ArtifactStore).path name = ⟨name ++ "." ++ Artifact.extension⟩ := by
  simp [path, Path.join]

lemma staysPut_of_child (h : ((⟨⟨""⟩⟩ : ArtifactStore).path name).IsChildOf ⟨""⟩) :
    StaysPut name where
  relative := by
    rw [← isAbsolute_file, ← path_here, h.side]
    rfl
  lead := by
    obtain ⟨file, _, hnames⟩ := h.below
    have hlength := congrArg List.length hnames
    rw [path_here, names_file, List.length_append, List.length_append] at hlength
    have hbase : (⟨""⟩ : Path).names = [] := rfl
    rw [hbase] at hlength
    exact leadNames_eq_nil.mp (List.length_eq_zero_iff.mp (by simpa using hlength))

lemma keepsApart_of_staysPut (hput : ∀ name ∈ names, StaysPut name)
    (hdistinct : (names.map lastPart).Nodup) (store : ArtifactStore) : store.KeepsApart names := by
  refine keepsApart_of_child (fun name hname => (hput name hname).isChildOf store)
    fun name hname other hother hne hsame => hne ?_
  have hnames := hsame.2
  rw [(hput name hname).names_path, (hput other hother).names_path, List.append_cancel_left_eq,
    List.singleton_inj, file_inj] at hnames
  exact List.inj_on_of_nodup_map hdistinct hname hother hnames

/-- The names of a registry are kept apart in every directory exactly if none of them leads to
another directory and they differ behind their last slashes. -/
theorem keepsApart_iff (registry : Registry) :
    (∀ dir, (⟨dir⟩ : ArtifactStore).KeepsApart registry.names) ↔
      (∀ name ∈ registry.names, StaysPut name) ∧ (registry.names.map lastPart).Nodup := by
  constructor
  · intro h
    have hput : ∀ name ∈ registry.names, StaysPut name :=
      fun name hname => staysPut_of_child ((h ⟨""⟩).child name hname)
    refine ⟨hput, (List.nodup_map_iff_inj_on registry.nodup).mpr ?_⟩
    intro name hname other hother heq
    by_contra hne
    refine (h ⟨""⟩).apart name hname other hother hne ⟨?_, ?_⟩
    · rw [((hput name hname).isChildOf _).side, ((hput other hother).isChildOf _).side]
    · rw [(hput name hname).names_path, (hput other hother).names_path, heq]
  · rintro ⟨hput, hdistinct⟩ dir
    exact keepsApart_of_staysPut hput hdistinct ⟨dir⟩

def twice : List BuildTarget := [⟨"Offer", "contracts/offer"⟩, ⟨"./Offer", "contracts/offer"⟩]

def astray : List BuildTarget := [⟨"../Offer", "contracts/offer"⟩]

theorem not_keepsApart_slashed :
    (∃ registry, Registry.ofList twice = .ok registry ∧
      ¬ (⟨⟨"out"⟩⟩ : ArtifactStore).KeepsApart registry.names) ∧
    ∃ registry, Registry.ofList astray = .ok registry ∧
      ¬ (⟨⟨"out"⟩⟩ : ArtifactStore).KeepsApart registry.names := by
  constructor
  · have hdistinct : (twice.map (·.name)).Nodup := by decide
    obtain ⟨registry, hregistry⟩ := Registry.exists_ofList_eq_ok hdistinct
    refine ⟨registry, hregistry, fun h => ?_⟩
    rw [Registry.names, Registry.targets_of_ofList hregistry] at h
    exact h.apart "Offer" (by decide) "./Offer" (by decide) (by decide) ⟨by decide, by decide⟩
  · have hdistinct : (astray.map (·.name)).Nodup := by decide
    obtain ⟨registry, hregistry⟩ := Registry.exists_ofList_eq_ok hdistinct
    refine ⟨registry, hregistry, fun h => ?_⟩
    rw [Registry.names, Registry.targets_of_ofList hregistry] at h
    obtain ⟨name, _, hnames⟩ := (h.child "../Offer" (by decide)).below
    have hlength := congrArg List.length hnames
    rw [List.length_append, List.length_singleton] at hlength
    exact absurd hlength (by decide)

lemma keepsApart_of_plain {registry : Registry} (h : ∀ name ∈ registry.names, '/' ∉ name.toList)
    (store : ArtifactStore) : store.KeepsApart registry.names := by
  have hput (name : String) (hname : '/' ∉ name.toList) : StaysPut name := by
    refine ⟨?_, by simp [Text.splitAt_of_notMem hname]⟩
    rw [Path.isAbsolute, decide_eq_false_iff_not]
    exact fun hhead => hname (List.mem_of_head? hhead)
  have hlast : registry.names.map lastPart = registry.names := by
    refine (List.map_congr_left fun name hname => ?_).trans (List.map_id _)
    rw [lastPart, Text.splitAt_of_notMem (h name hname)]
    exact String.ofList_toList
  refine keepsApart_of_staysPut (fun name hname => hput name (h name hname)) ?_ store
  rw [hlast]
  exact registry.nodup

end Apart

end ArtifactStore

end DeployForge
