import DeployForge.Proofs.Artifact.Naming
import DeployForge.Proofs.Pipeline.Frame
import DeployForge.Proofs.Pipeline.Leftovers

/-!
What a run may touch. The tools apart, it writes the probe, removes the listing and the compiled
program, and stores the artifact, for which it makes the directories that are missing. The payload
is read before that, so a run that fails in any other way leaves the output directory alone.
-/

namespace DeployForge

variable {d m d' : Disk}

namespace Pipeline

variable {σ : Type} {bench : Bench σ} {paths : PathsConfig} {name : String} {p : Path}
  {made : Location → List Location}

section Footprint

/-- The paths lead to different places, and those of files to none inside the output directory. -/
structure Laid (paths : PathsConfig) (place : Location) : Prop where
  distinct : ([paths.constants, paths.probeSource, paths.listing, paths.compiled,
    paths.outputDir].map (·.location place)).Nodup
  outside : ∀ p ∈ [paths.constants, paths.probeSource, paths.listing, paths.compiled],
    ¬ paths.outputDir.location place <+: p.location place

def artifactPlace (paths : PathsConfig) (name : String) (place : Location) : Location :=
  paths.outputDir.location place ++ [name ++ "." ++ Artifact.extension]

def outputWay (paths : PathsConfig) (place : Location) : List Location :=
  paths.outputDir.inside place

def touched (paths : PathsConfig) (name : String) (place : Location) : List Location :=
  artifactPlace paths name place ::
    [paths.probeSource, paths.listing, paths.compiled].map (·.location place)

/-- Only the touched places change, and those of the listing and of the compiled program only by a
removal, but for directories that are made at `made` where nothing is. The constants and the
artifacts of other targets stay. -/
structure Confined (made : Location → List Location) (paths : PathsConfig) (name : String)
    (d d' : Disk) : Prop where
  place : d'.place = d.place
  removed : ∀ p ∈ [paths.listing, paths.compiled],
    d'.tree.find? (d.location p) = d.tree.find? (d.location p) ∨
      d'.tree.find? (d.location p) = none ∨
        d.location p ∈ made d.place ∧ d'.tree.find? (d.location p) = some .directory
  elsewhere : ∀ k ∉ touched paths name d.place, Tree.MakesAt (made d.place) k d.tree d'.tree
  constants : d.tree.find? (d.location paths.constants) ≠ none →
    d'.tree.find? (d.location paths.constants) = d.tree.find? (d.location paths.constants)
  artifacts : ∀ other ≠ name, d.tree.find? (artifactPlace paths other d.place) ≠ none →
    d'.tree.find? (artifactPlace paths other d.place) =
      d.tree.find? (artifactPlace paths other d.place)

structure KeepsOutput (paths : PathsConfig) (d d' : Disk) : Prop where
  place : d'.place = d.place
  same : ∀ k, d.location paths.outputDir <+: k → d'.tree.find? k = d.tree.find? k

/-- The output directory could not be made, or the artifact not be written. -/
def IsOutputFailure (paths : PathsConfig) (name : String) (e : Error) : Prop :=
  ∃ cause, e = .stage name .persisted (.write paths.outputDir cause) ∨
    e = .stage name .persisted (.write (artifactPath paths name) cause)

/-- All that a run itself does to the disk is confined, and if it fails in another way than by its
output, the output directory is kept. -/
structure KeepsTo (made : Location → List Location) (bench : Bench σ) (target : BuildTarget)
    (site : Site σ) : Prop where
  confined : ((run bench.logged target).log site).Between
    (fun d d' => Laid bench.paths d.place → Confined made bench.paths target.name d d')
    site.disk (run bench target site).2.disk
  output : ∀ e, (run bench target site).1 = .error e → ¬ IsOutputFailure bench.paths target.name e →
    ((run bench.logged target).log site).Between
      (fun d d' => Laid bench.paths d.place → KeepsOutput bench.paths d d')
      site.disk (run bench target site).2.disk

end Footprint

section Places

variable {place : Location}

lemma location_artifactPath (hname : '/' ∉ name.toList) :
    (artifactPath paths name).location place = artifactPlace paths name place :=
  (ArtifactStore.isPlain_file hname).location_join

lemma artifactPlace_inj {other : String} :
    artifactPlace paths other place = artifactPlace paths name place ↔ other = name := by
  rw [artifactPlace, artifactPlace, List.append_cancel_left_eq, List.singleton_inj,
    ArtifactStore.file_inj]

namespace Laid

variable (hlaid : Laid paths place)

include hlaid

lemma artifactPlace_ne
    (hp : p ∈ [paths.constants, paths.probeSource, paths.listing, paths.compiled]) :
    p.location place ≠ artifactPlace paths name place := by
  intro heq
  exact hlaid.outside p hp (heq ▸ List.prefix_append ..)

lemma constants_notMem : paths.constants.location place ∉ touched paths name place := by
  have hdistinct := (List.nodup_cons.mp hlaid.distinct).1
  rw [touched, List.mem_cons, not_or]
  refine ⟨hlaid.artifactPlace_ne (by simp), fun hmem => hdistinct ?_⟩
  simp only [List.map_cons, List.map_nil, List.mem_cons] at hmem ⊢
  tauto

lemma artifactPlace_notMem {other : String} (hother : other ≠ name) :
    artifactPlace paths other place ∉ touched paths name place := by
  rw [touched, List.mem_cons, not_or]
  refine ⟨fun heq => hother (artifactPlace_inj.mp heq), fun hmem => ?_⟩
  obtain ⟨p, hp, heq⟩ := List.mem_map.mp hmem
  exact hlaid.artifactPlace_ne (List.mem_cons_of_mem _ hp) heq

end Laid

lemma Laid.confined (hlaid : Laid paths d.place) (hplace : d'.place = d.place)
    (hremoved : ∀ p ∈ [paths.listing, paths.compiled],
      d'.tree.find? (d.location p) = d.tree.find? (d.location p) ∨
        d'.tree.find? (d.location p) = none ∨
          d.location p ∈ made d.place ∧ d'.tree.find? (d.location p) = some .directory)
    (helsewhere : ∀ k ∉ touched paths name d.place,
      Tree.MakesAt (made d.place) k d.tree d'.tree) :
    Confined made paths name d d' where
  place := hplace
  removed := hremoved
  elsewhere := helsewhere
  constants := (helsewhere _ hlaid.constants_notMem).eq_of_ne_none
  artifacts _ hother := (helsewhere _ (hlaid.artifactPlace_notMem hother)).eq_of_ne_none

end Places

section Frames

lemma isFrame_confined : Log.IsFrame fun d d' =>
    Laid paths d.place → Confined made paths name d d' where
  refl d hlaid := hlaid.confined rfl (fun _ _ => .inl rfl) fun _ _ => .refl _ _ _
  trans {d m d'} h h' hlaid := by
    have hfirst := h hlaid
    have hsecond := h' (hfirst.place ▸ hlaid)
    refine hlaid.confined (hsecond.place.trans hfirst.place) (fun p hp => ?_) fun k hk => ?_
    · have hlast := hsecond.removed p hp
      simp only [Disk.location, hfirst.place] at hlast ⊢
      rcases hlast with hsame | hnone | hmade
      · rw [hsame]
        exact hfirst.removed p hp
      · exact .inr (.inl hnone)
      · exact .inr (.inr hmade)
    · have hlast := hsecond.elsewhere k (hfirst.place ▸ hk)
      rw [hfirst.place] at hlast
      exact (hfirst.elsewhere k hk).trans hlast

lemma isFrame_keepsOutput :
    Log.IsFrame fun d d' => Laid paths d.place → KeepsOutput paths d d' where
  refl d _ := ⟨rfl, fun _ _ => rfl⟩
  trans {d m d'} h h' hlaid := by
    have hfirst := h hlaid
    have hsecond := h' (hfirst.place ▸ hlaid)
    refine ⟨hsecond.place.trans hfirst.place, fun k hk => ?_⟩
    rw [← hfirst.same k hk]
    exact hsecond.same k (by rwa [Disk.location, hfirst.place])

end Frames

section Actions

lemma persist_cases {payload : String} {result : Except Error Path}
    (h : persist bench name payload d = (result, d')) : ∃ m : Disk,
    m.place = d.place ∧ Tree.Makes (bench.paths.outputDir.inside d.place) d.tree m.tree ∧
      m.ChangesAt (m.location (artifactPath bench.paths name)) d' := by
  rw [persist] at h
  cases hread : Artifact.ofHex name payload with
  | error e =>
    simp only [hread] at h
    obtain rfl := (Prod.mk.inj h).2
    exact ⟨d, rfl, .refl _ _, .refl _ _⟩
  | ok artifact =>
    simp only [hread] at h
    obtain rfl := (Prod.mk.inj h).2
    have hchanges := (store bench).changes_of_persist artifact d
    rwa [(ofHex_eq_ok hread).1] at hchanges

lemma persist_eq_self {payload : String} {e : Error}
    (h : persist bench name payload d = (.error e, d'))
    (hfailure : ¬ IsOutputFailure bench.paths name (.stage name .persisted e)) : d' = d := by
  cases persists h with
  | refused => rfl
  | @unmade _ cause => exact absurd ⟨cause, .inl rfl⟩ hfailure
  | @unwritten _ cause => exact absurd ⟨cause, .inr rfl⟩ hfailure

namespace Laid

variable (hlaid : Laid paths d.place)

include hlaid

lemma keepsOutput (hp : p ∈ [paths.constants, paths.probeSource, paths.listing, paths.compiled])
    (h : d.ChangesAt (d.location p) d') : KeepsOutput paths d d' where
  place := h.place
  same k hk := by
    refine h.tree.elsewhere k ?_
    rintro rfl
    exact hlaid.outside p hp hk

lemma confined_write (h : d.ChangesAt (d.location paths.probeSource) d') :
    Confined made paths name d d' := by
  have hdistinct := (List.nodup_cons.mp (List.nodup_cons.mp hlaid.distinct).2).1
  refine hlaid.confined h.place (fun p hp => .inl (h.tree.elsewhere _ fun heq => hdistinct ?_))
    fun k hk => .inl (h.tree.elsewhere k fun heq => hk ?_)
  · have hmem : p ∈ [paths.listing, paths.compiled, paths.outputDir] := by
      simp only [List.mem_cons] at hp ⊢
      tauto
    exact List.mem_map.mpr ⟨p, hmem, heq⟩
  · simp [heq, touched, Disk.location]

lemma confined_removeStale (hp : p ∈ [paths.listing, paths.compiled]) :
    Confined made paths name d (removeStale p d).2 := by
  have hchanges : d.ChangesAt (d.location p) (removeStale p d).2 := changesAt_of_removeStale rfl
  refine hlaid.confined hchanges.place (fun q _ => ?_)
    fun k hk => .inl (hchanges.tree.elsewhere k fun heq => hk ?_)
  · by_cases heq : d.location q = d.location p
    · obtain ⟨_, hr, _⟩ := exists_of_removeStale (rfl : removeStale p d = (_, _))
      rw [heq]
      exact (Disk.find?_of_remove hr).imp_right .inl
    · exact .inl (hchanges.tree.elsewhere _ heq)
  · rw [heq, touched]
    exact List.mem_cons_of_mem _ (List.mem_map_of_mem (List.mem_cons_of_mem _ hp))

lemma confined_persist (hname : '/' ∉ name.toList) {m : Disk} (hplace : m.place = d.place)
    (hmakes : Tree.Makes (paths.outputDir.inside d.place) d.tree m.tree)
    (h : m.ChangesAt (m.location (artifactPath paths name)) d') :
    Confined (outputWay paths) paths name d d' := by
  rw [Disk.location, location_artifactPath hname, hplace] at h
  refine hlaid.confined (h.place.trans hplace) (fun p hp => ?_) fun k hk => ?_
  · have hne : d.location p ≠ artifactPlace paths name d.place :=
      hlaid.artifactPlace_ne (List.mem_cons_of_mem _ (List.mem_cons_of_mem _ hp))
    rw [h.tree.elsewhere _ hne]
    exact (hmakes _).imp_right fun hmade => .inr ⟨hmade.1, hmade.2.2⟩
  · rw [Tree.MakesAt, h.tree.elsewhere k fun heq => hk (by simp [heq, touched])]
    exact hmakes k

end Laid

end Actions

section Run

lemma within_confined (bench : Bench σ) {target : BuildTarget} (hname : '/' ∉ target.name.toList) :
    (run bench target).Within
      (fun d d' => Laid bench.paths d.place →
        Confined (outputWay bench.paths) bench.paths target.name d d')
      Work.always (run bench.logged target) := by
  refine within_run isFrame_confined (fun _ _ hlaid => hlaid.confined_write (changesAt_probe rfl))
    (fun _ hp _ hlaid => hlaid.confined_removeStale hp) fun payload d _ hlaid => ?_
  obtain ⟨m, hplace, hmakes, hchanges⟩ := persist_cases rfl
  exact hlaid.confined_persist hname hplace hmakes hchanges

def FailsEarlier (paths : PathsConfig) (name : String) (result : Except Error Path) : Prop :=
  ∃ e, result = .error e ∧ ¬ IsOutputFailure paths name e

lemma within_keepsOutput (bench : Bench σ) (target : BuildTarget) :
    (run bench target).Within (fun d d' => Laid bench.paths d.place → KeepsOutput bench.paths d d')
      (FailsEarlier bench.paths target.name) (run bench.logged target) := by
  refine within_run isFrame_keepsOutput
    (fun _ _ hlaid => hlaid.keepsOutput (by simp) (changesAt_probe rfl))
    (fun p hp _ hlaid => hlaid.keepsOutput
      (List.mem_cons_of_mem _ (List.mem_cons_of_mem _ hp)) (changesAt_of_removeStale rfl)) ?_
  rintro payload d ⟨e, hresult, hfailure⟩ hlaid
  obtain ⟨cause, hcause, rfl⟩ := mapError_eq_error.mp hresult
  have hsame : (persist bench target.name payload d).2 = d :=
    persist_eq_self (Prod.ext hcause rfl) hfailure
  rw [hsame]
  exact isFrame_keepsOutput.refl d hlaid

end Run

/-- A run touches no more than the files of its target, whatever the tools do, and leaves the output
directory as it was unless it fails with that. -/
theorem run_confined (bench : Bench σ) (target : BuildTarget) (site : Site σ)
    (hname : '/' ∉ target.name.toList) :
    KeepsTo (outputWay bench.paths) bench target site where
  confined := (within_confined bench hname).between site trivial
  output e he hfailure := (within_keepsOutput bench target).between site ⟨e, he, hfailure⟩

def silent : Bench Unit :=
  { steady with tools := { steady.tools with sandbox := fun _ _ _ site => (.ok " \n", site) } }

def stored : Site Unit where
  disk :=
    { tree := ⟨[(["out"], .directory), (["out", "Offer.boc"], .file "stale".toUTF8 false)]⟩ }
  outside := ()

theorem run_confined_silent :
    '/' ∉ offer.name.toList ∧ Laid silent.paths stored.disk.place ∧
      (run silent offer stored).1.mapError Error.exitCode = .error (Error.payload "").exitCode ∧
      KeepsTo (outputWay silent.paths) silent offer stored :=
  ⟨by decide, ⟨by decide +kernel, by decide +kernel⟩, by decide +kernel,
    run_confined silent offer stored (by decide)⟩

def winding : Bench Unit :=
  { steady with paths := { steady.paths with outputDir := ⟨"build/tmp/../out"⟩ } }

def built : Site Unit := ⟨{ tree := ⟨[(["build"], .directory)]⟩ }, ()⟩

lemma KeepsTo.between_same {target : BuildTarget} {site : Site σ} {place k : Location}
    (h : KeepsTo made bench target site) (hlaid : Laid bench.paths place)
    (hk : k ∉ touched bench.paths target.name place) (hmade : k ∉ made place) :
    ((run bench.logged target).log site).Between
      (fun d d' => d.place = place → d'.tree.find? k = d.tree.find? k)
      site.disk (run bench target site).2.disk := by
  refine h.confined.mono fun d d' hconfined hplace => ?_
  subst hplace
  exact ((hconfined hlaid).elsewhere k hk).resolve_right fun hmake => hmade hmake.1

theorem not_keepsTo_winding :
    ¬ KeepsTo (fun place => [winding.paths.outputDir.location place]) winding offer built := by
  intro h
  have hlaid : Laid winding.paths [] := ⟨by decide +kernel, by decide +kernel⟩
  have hpassed : ["build", "tmp"] ∉ touched winding.paths offer.name [] := by decide +kernel
  have hother : ["build", "tmp"] ∉ [winding.paths.outputDir.location []] := by decide +kernel
  exact absurd (h.between_same hlaid hpassed hother) (by decide +kernel)

end Pipeline

end DeployForge
