import DeployForge.Proofs.Bench.SideBySide
import DeployForge.Proofs.Pipeline.Freshness
import DeployForge.Proofs.Pipeline.Provenance
import Mathlib.Data.List.Nodup

namespace DeployForge

namespace Disk

variable {d d' : Disk} {p : Path}

def MayHold (d : Disk) (p : Path) : Prop :=
  d.tree.find? (d.location p) = none ∨
    ∃ content runnable, d.tree.status d.place p = .ok (.file content runnable)

structure OpensDir (d : Disk) (p : Path) : Prop where
  dot : p.endsInDot = false
  clear : d.tree.IsClear (p.start d.place) (p.names ++ [".."])

def SameAt (d d' : Disk) (places : List Location) : Prop :=
  ∀ k ∈ places, SameKind (d.tree.find? k) (d'.tree.find? k)

instance (d d' : Disk) (places : List Location) : Decidable (d.SameAt d' places) :=
  inferInstanceAs (Decidable (∀ k ∈ places, _))

lemma MayHold.tree (h : d.MayHold p) : d.tree.MayHold d.place p := by
  rcases h with hnone | ⟨content, runnable, hstatus⟩
  · exact .inl hnone
  · exact .inr (Tree.isTarget_of_status hstatus)

end Disk

namespace Pipeline

variable {σ α : Type} {bench : Bench σ} {paths : PathsConfig} {name : String} {d d' : Disk}

def artifactPath (paths : PathsConfig) (name : String) : Path :=
  ArtifactStore.path ⟨paths.outputDir⟩ name

/-- The files that a target writes, or has its compiler write. -/
def ownFiles (paths : PathsConfig) (name : String) : List Path :=
  [paths.probeSource, paths.listing, paths.compiled, artifactPath paths name]

/-- The files of a target lead to different places, and none of them to a place on the way to
another or to the output directory. -/
structure Separate (paths : PathsConfig) (name : String) (place : Location) : Prop where
  distinct : ((paths.constants :: ownFiles paths name).map (·.location place)).Nodup
  apart : ∀ p ∈ paths.constants :: ownFiles paths name,
    ∀ q ∈ paths.constants :: ownFiles paths name, p.location place ∉ q.way place
  outside : ∀ p ∈ paths.constants :: ownFiles paths name,
    p.location place ∉ paths.outputDir.inside place

/-- Two disks with the same constants on which the same files can be written and removed, each with
some regular file or none at the paths of a target. A listing or a program that cannot be removed is
there on both sides or on neither. Directories that a run or its compiler makes may be missing on
either side. -/
structure Alike (paths : PathsConfig) (name : String) (d d' : Disk) : Prop where
  place : d'.place = d.place
  medium : d'.medium = d.medium
  writes : d'.writes = d.writes
  held : ∀ p ∈ [paths.listing, paths.compiled], d'.held (d.location p) = d.held (d.location p)
  removable : ∀ p ∈ [paths.listing, paths.compiled], d.held (d.location p) = none ∨
    SameKind (d.tree.find? (d.location p)) (d'.tree.find? (d.location p))
  constants : SameContent (d.tree.find? (d.location paths.constants))
    (d'.tree.find? (d.location paths.constants))
  own : ∀ p ∈ ownFiles paths name, d.MayHold p ∧ d'.MayHold p
  fixed : ∀ p ∈ [paths.constants, paths.probeSource], d.SameAt d' (p.way d.place)
  made : ∀ p ∈ [paths.listing, paths.compiled], d.SameAt d' (p.way d.place) ∨
    Separate paths name d.place ∧ d.tree.Opens d.place p ∧ d'.tree.Opens d.place p
  output : d.SameAt d' (paths.outputDir.inside d.place) ∨
    Separate paths name d.place ∧ d.OpensDir paths.outputDir ∧ d'.OpensDir paths.outputDir
  artifact : ∀ k ∈ (artifactPath paths name).way d.place,
    k ∈ paths.outputDir.inside d.place ∨ SameKind (d.tree.find? k) (d'.tree.find? k)

def terrain (paths : PathsConfig) (name : String) (d d' : Disk) : Terrain where
  place := d.place
  files := paths.constants :: ownFiles paths name
  stale := [paths.listing, paths.compiled]
  dir := paths.outputDir
  same k := SameKind (d.tree.find? k) (d'.tree.find? k)
  loose q := q ∈ [paths.listing, paths.compiled] ∧ Separate paths name d.place ∧
    d.tree.Opens d.place q ∧ d'.tree.Opens d.place q
  distinct _ hp _ hq hloose heq := List.inj_on_of_nodup_map hloose.2.1.distinct hp hq heq
  apart p hp q hq hloose := ⟨hloose.2.1.apart p hp q hq, hloose.2.1.apart q hq p hp⟩
  outside q hq hloose := hloose.2.1.outside q hq
  looseDir := Separate paths name d.place ∧ d.OpensDir paths.outputDir ∧
    d'.OpensDir paths.outputDir
  plainDir h := h.2.1.dot
  outsideDir h := h.1.outside

lemma Alike.mayHold (h : Alike paths name d d') {p : Path} (hp : p ∈ ownFiles paths name) :
    d.tree.MayHold d.place p ∧ d'.tree.MayHold d.place p := by
  obtain ⟨hd, hd'⟩ := h.own p hp
  have hm := hd'.tree
  rw [h.place] at hm
  exact ⟨hd.tree, hm⟩

lemma Alike.twins (h : Alike paths name d d') :
    d.Twins (terrain paths name d d') [d.location paths.constants] d' where
  place := rfl
  place' := h.place
  medium := h.medium.symm
  writes := h.writes.symm
  held := h.held
  removable := h.removable
  tree :=
    { kinds := fun _ hk => hk
      contents := List.forall_mem_singleton.mpr h.constants
      files := fun p hp => by
        rcases List.mem_cons.mp hp with rfl | hp
        · exact .inl h.constants
        · exact .inr (h.mayHold hp)
      loose := fun q _ hloose => by
        obtain ⟨hq, _, ho, ho'⟩ := hloose
        have hown : q ∈ ownFiles paths name := by
          simp only [ownFiles, List.mem_cons] at hq ⊢
          tauto
        exact ⟨⟨ho, (h.mayHold hown).1⟩, ho', (h.mayHold hown).2⟩
      dir := fun hloose => by
        have hclear := hloose.2.2.clear
        rw [h.place] at hclear
        exact ⟨hloose.2.1.clear, hclear⟩ }

/-- A terrain on which every file of a target can be followed to its place, or is loose. -/
structure Suits (T : Terrain) (paths : PathsConfig) (name : String) : Prop where
  stale : T.stale = [paths.listing, paths.compiled]
  files : ∀ p ∈ [paths.constants, paths.probeSource, paths.listing, paths.compiled],
    p ∈ T.files ∧ (T.Fixed p ∨ T.loose p)
  probe : T.Fixed paths.probeSource
  dir : T.dir = paths.outputDir
  made : (∀ k ∈ T.dir.inside T.place, T.same k) ∨ T.looseDir
  artifact : artifactPath paths name ∈ T.files
  settled : T.settled.Fixed (artifactPath paths name)

lemma Alike.suits (h : Alike paths name d d') : Suits (terrain paths name d d') paths name where
  stale := rfl
  files p hp := by
    have hfile : p ∈ (terrain paths name d d').files := by
      simp only [terrain, ownFiles, List.mem_cons] at hp ⊢
      tauto
    refine ⟨hfile, ?_⟩
    simp only [List.mem_cons, List.not_mem_nil, or_false] at hp
    rcases hp with rfl | rfl | rfl | rfl
    · exact .inl (h.fixed _ (by simp))
    · exact .inl (h.fixed _ (by simp))
    · exact (h.made _ (by simp)).imp_right fun hloose => ⟨by simp, hloose⟩
    · exact (h.made _ (by simp)).imp_right fun hloose => ⟨by simp, hloose⟩
  probe := h.fixed _ (by simp)
  dir := rfl
  made := h.output
  artifact := by simp [terrain, ownFiles]
  settled k hk := (h.artifact k hk).symm

section Stages

variable {T : Terrain} {known : List Location} {p : Path}

lemma runsAlike_atStage {P : Disk → Disk → Prop} {Q : α → Disk → Disk → Prop} {w : Work σ α}
    (h : w.RunsAlike P Q) (stage : Stage) : (atStage bench name stage w).RunsAlike P Q :=
  (bench.runsAlike_notify _).bind fun _ => (h.adapt _).bind fun a =>
    (bench.runsAlike_notify _).bind fun _ => Work.runsAlike_pure a

lemma runsAlike_write (hp : p ∈ T.files) (hfixed : T.Fixed p) (source : String) :
    (Work.onDisk (ProbeModule.write ⟨p⟩ source) : Work σ Unit).RunsAlike (Disk.Twins T known)
      fun _ => Disk.Twins T (p.location T.place :: known) := by
  have hwrite : ∀ d : Disk, ProbeModule.write ⟨p⟩ source d =
      ((d.write p source.toUTF8).1.mapError (.write p), (d.write p source.toUTF8).2) := by
    intro d
    rw [ProbeModule.write, Disk.writeText]
    rcases d.write p source.toUTF8 with ⟨e | _, after⟩ <;> rfl
  refine Work.runsAlike_onDisk fun d d' h => ?_
  rw [hwrite, hwrite]
  exact (h.write hp hfixed _).mapError _

lemma removeStale_of_clears {d : Disk} {place : Location} {t : Tree} (hplace : d.place = place)
    (h : d.tree.Clears d.held place p t) : removeStale p d = (.ok (), { d with tree := t }) := by
  subst hplace
  rw [removeStale, Disk.remove]
  rcases h.removed with hok | ⟨hnone, rfl⟩
  · rw [hok]
  · rw [hnone]
    rfl

lemma runsAlike_removeStale (hp : p ∈ T.files) (hleads : T.Fixed p ∨ T.loose p)
    (hstale : p ∈ T.stale) :
    (Work.onDisk (removeStale p) : Work σ Unit).RunsAlike (Disk.Twins T known)
      fun _ => Disk.Twins T (p.location T.place :: known) := by
  refine Work.runsAlike_onDisk fun d d' h => ?_
  rcases h.tree.remove_cases hp hleads (h.removable p hstale) (h.held p hstale) with
    ⟨e, he, he', htwins⟩ | ⟨t, t', hc, hc'⟩
  · rw [removeStale, removeStale, Disk.remove, Disk.remove, h.place, h.place', he, he']
    by_cases hnone : e = .os .noEntry
    · simp only [if_pos hnone]
      exact .ok ⟨h.place, h.place', h.medium, h.writes, h.held, h.removable, htwins hnone⟩
    · simp only [if_neg hnone]
      exact .error _ _ _
  · rw [removeStale_of_clears h.place hc, removeStale_of_clears h.place' hc']
    exact .ok ⟨h.place, h.place', h.medium, h.writes, h.held, h.removable,
      h.tree.cleared hp hc hc'⟩

variable {behaviour : Behaviour}

lemma runsAlike_compile (hs : Suits T bench.paths name)
    (hp : p ∈ [bench.paths.listing, bench.paths.compiled])
    (hconstants : bench.paths.constants.location T.place ∈ known)
    (hprobe : bench.paths.probeSource.location T.place ∈ known) :
    (compile (bench.behaving behaviour) p).RunsAlike (Disk.Twins T known)
      fun _ => Disk.Twins T (p.location T.place :: known) := by
  obtain ⟨hfile, hleads⟩ := hs.files p (by simp only [List.mem_cons] at hp ⊢; tauto)
  have hstale : p ∈ T.stale := hs.stale ▸ hp
  refine (runsAlike_removeStale hfile hleads hstale).bind fun _ => ?_
  exact (bench.runsAlike_runChecked behaviour hs.files (List.mem_cons_of_mem _ hconstants)
    (List.mem_cons_of_mem _ hprobe) _ _ _).bind fun _ _ _ h => .ok h

lemma runsAlike_extract (hs : Suits T bench.paths name) (function : String)
    (hknown : bench.paths.listing.location T.place ∈ known) :
    (Work.readDisk (extract (bench.behaving behaviour) function) : Work σ _).RunsAlike
      (Disk.Twins T known) fun _ => Disk.Twins T known := by
  obtain ⟨hfile, hleads⟩ := hs.files bench.paths.listing (by simp)
  refine Work.runsAlike_readDisk fun d d' h => ?_
  have htext : d.readText (bench.behaving behaviour).paths.listing =
      d'.readText (bench.behaving behaviour).paths.listing :=
    h.readText_eq hfile hleads hknown
  rw [extract, extract, htext]

lemma runsAlike_deploy (hs : Suits T bench.paths name)
    (hconstants : bench.paths.constants.location T.place ∈ known)
    (hprobe : bench.paths.probeSource.location T.place ∈ known)
    (hknown : bench.paths.compiled.location T.place ∈ known) :
    (deploy (bench.behaving behaviour)).RunsAlike (Disk.Twins T known)
      fun _ => Disk.Twins T known := by
  obtain ⟨hfile, hleads⟩ := hs.files bench.paths.compiled (by simp)
  have hload : (Work.readDisk (Program.load (bench.behaving behaviour).paths.compiled) :
      Work σ Program).RunsAlike (Disk.Twins T known) fun _ => Disk.Twins T known := by
    refine Work.runsAlike_readDisk fun d d' h => ?_
    have htext : d.readText (bench.behaving behaviour).paths.compiled =
        d'.readText (bench.behaving behaviour).paths.compiled :=
      h.readText_eq hfile hleads hknown
    rw [Program.load, Program.load, htext]
  exact hload.bind fun program =>
    bench.runsAlike_sandbox behaviour hs.files hconstants hprobe program _ _

lemma agree_persist (hs : Suits T paths name) (artifact : Artifact)
    (htarget : artifact.target = name) (h : d.Twins T known d') :
    Agree (fun path d d' => ∃ bytes, d.read path = .ok bytes ∧ d'.read path = .ok bytes)
      (ArtifactStore.persist ⟨paths.outputDir⟩ artifact d)
      (ArtifactStore.persist ⟨paths.outputDir⟩ artifact d') := by
  have hmade := h.createDirectories hs.made
  rw [hs.dir] at hmade
  rw [ArtifactStore.persist, ArtifactStore.persist]
  rcases hmade.error_or_ok with ⟨e, s, s', hd, hd'⟩ | ⟨_, s, s', hd, hd', hsettled⟩
  · rw [hd, hd']
    exact .error _ _ _
  have hwritten := hsettled.write hs.artifact hs.settled artifact.bytes.toByteArray
  rw [← htarget, artifactPath] at hwritten
  simp only [hd, hd']
  rcases hwritten.error_or_ok with ⟨e, s, s', hw, hw'⟩ | ⟨_, s, s', hw, hw', _⟩
  · rw [hw, hw']
    exact .error _ _ _
  · rw [hw, hw']
    exact .ok ⟨_, Disk.read_of_write hw, Disk.read_of_write hw'⟩

lemma runsAlike_persist (hs : Suits T bench.paths name) (payload : String) :
    (Work.onDisk (persist (bench.behaving behaviour) name payload) : Work σ Path).RunsAlike
      (Disk.Twins T known) fun path d d' => ∃ bytes, d.read path = .ok bytes ∧
        d'.read path = .ok bytes := by
  refine Work.runsAlike_onDisk fun d d' h => ?_
  rw [persist, persist]
  cases ha : Artifact.ofHex name payload with
  | error e => exact .error e d d'
  | ok artifact => exact agree_persist hs artifact (ofHex_eq_ok ha).1 h

lemma runsAlike_run {target : BuildTarget} (hs : Suits T bench.paths target.name)
    (behaviour : Behaviour) :
    (run (bench.behaving behaviour) target).RunsAlike
      (Disk.Twins T [bench.paths.constants.location T.place])
      fun path d d' => ∃ bytes, d.read path = .ok bytes ∧ d'.read path = .ok bytes := by
  obtain ⟨hprobe, -⟩ := hs.files bench.paths.probeSource (by simp)
  rw [run]
  -- Each stage reads only what is known by then, and makes one more file known.
  refine (runsAlike_atStage (runsAlike_write hprobe hs.probe _) _).bind fun _ => ?_
  refine (runsAlike_atStage (runsAlike_compile hs (by simp [Bench.behaving]) (by simp) (by simp))
    _).bind fun _ => ?_
  refine (runsAlike_atStage (runsAlike_extract hs _ (by simp [Bench.behaving])) _).bind
    fun code => ?_
  refine (runsAlike_atStage (runsAlike_write hprobe hs.probe _) _).bind fun _ => ?_
  refine (runsAlike_atStage (runsAlike_compile hs (by simp [Bench.behaving]) (by simp) (by simp))
    _).bind fun _ => ?_
  refine (runsAlike_atStage (runsAlike_deploy hs (by simp) (by simp) (by simp [Bench.behaving]))
    _).bind fun payload => ?_
  exact runsAlike_atStage (runsAlike_persist hs payload) _

end Stages

def workshop : Bench Unit :=
  { steady with
    paths :=
      { constants := ⟨"constants.tolk"⟩, probeSource := ⟨"probe.tolk"⟩
        listing := ⟨"build/probe.fif"⟩, compiled := ⟨"build/probe.json"⟩, outputDir := ⟨"out"⟩ } }

def diligent : Behaviour where
  compile _ probe _ _ _ :=
    { result := .ok {}
      listing := some "PROGRAM\x7b\ndeployOffer() PROC:<\x7b\n  NOP\n\x7d>\n\x7dEND>c\n".toUTF8
      compiled := probe.toOption.map fun _ => "\x7b\"hex\": \"b5ee\"\x7d".toUTF8 }
  sandbox _ _ _ _ _ := { result := .ok "b5ee" }

def contracts : Location × Node := (["constants.tolk"], .file "address".toUTF8 false)

def clean : Site Unit := ⟨{ tree := ⟨[contracts]⟩ }, ()⟩

def used : Site Unit where
  disk :=
    { tree := ⟨[contracts, (["probe.tolk"], .file "".toUTF8 false), (["build"], .directory),
        (["build", "probe.fif"], .file "stale".toUTF8 false), (["out"], .directory),
        (["out", "Offer.boc"], .file "stale".toUTF8 false)]⟩
      held := fun l => if l = ["out", "Offer.boc"] then some ⟨.denied, by decide⟩ else none }
  outside := ()

lemma opens_workshop {d : Disk} {p : Path}
    (hp : p ∈ [workshop.paths.listing, workshop.paths.compiled])
    (hbuild : d.tree.find? ["build"] = none ∨ d.tree.find? ["build"] = some .directory) :
    d.tree.Opens [] p := by
  have hplain : ∀ p ∈ [workshop.paths.listing, workshop.paths.compiled],
      (p.text.toList.contains '\x00' = false ∧ p.text.isEmpty = false ∧
        p.text.utf8ByteSize ≤ 4095) ∧ p.endsInSlash = false ∧ p.endsInDot = false ∧
      (∀ name ∈ p.names, name = ".." ∨ name.utf8ByteSize ≤ 255) ∧
      p.start [] = [] ∧ Path.placesFrom [] p.names = [[], ["build"]] := by
    decide +kernel
  obtain ⟨⟨hnul, hempty, hlong⟩, hslash, hdot, hshort, hstart, hplaces⟩ := hplain p hp
  refine ⟨⟨hnul, hempty, hlong⟩, hslash, hdot, ?_⟩
  rw [hstart]
  refine Tree.isClear_of_vacant rfl hshort ?_
  rw [hplaces]
  exact List.forall_mem_cons.mpr ⟨.inr rfl, List.forall_mem_singleton.mpr hbuild⟩

lemma alike_clean_used : Alike workshop.paths "Offer" clean.disk used.disk := by
  have hseparate : Separate workshop.paths "Offer" [] :=
    ⟨by decide +kernel, by decide +kernel, by decide +kernel⟩
  have hconstants : clean.disk.tree.find? (clean.disk.location workshop.paths.constants) =
      some contracts.2 := by
    decide +kernel
  have hconstants' : used.disk.tree.find? (clean.disk.location workshop.paths.constants) =
      some contracts.2 := by
    decide +kernel
  have hclean : ∀ p ∈ ownFiles workshop.paths "Offer", clean.disk.MayHold p :=
    fun p hp => .inl ((by decide +kernel : ∀ p ∈ ownFiles workshop.paths "Offer",
      clean.disk.tree.find? (clean.disk.location p) = none) p hp)
  have hused : ∀ p ∈ ownFiles workshop.paths "Offer", used.disk.MayHold p := by
    refine List.forall_mem_cons.mpr ⟨.inr ⟨"".toUTF8, false, ?_⟩, List.forall_mem_cons.mpr
      ⟨.inr ⟨"stale".toUTF8, false, ?_⟩, List.forall_mem_cons.mpr ⟨.inl ?_,
      List.forall_mem_singleton.mpr (.inr ⟨"stale".toUTF8, false, ?_⟩)⟩⟩⟩
    · exact toOption_eq_some.mp (by decide +kernel)
    · exact toOption_eq_some.mp (by decide +kernel)
    · decide +kernel
    · exact toOption_eq_some.mp (by decide +kernel)
  exact
    { place := rfl
      medium := rfl
      writes := rfl
      held := List.forall_mem_cons.mpr ⟨rfl, List.forall_mem_singleton.mpr rfl⟩
      removable := fun _ _ => .inl rfl
      constants := by
        rw [hconstants, hconstants']
        exact .file
      own := fun p hp => ⟨hclean p hp, hused p hp⟩
      fixed := by decide +kernel
      made := fun p hp => .inr ⟨hseparate, opens_workshop hp (by decide +kernel),
        opens_workshop hp (by decide +kernel)⟩
      output := .inr ⟨hseparate,
        ⟨by decide +kernel, Tree.isClear_of_vacant (by decide +kernel) (by decide +kernel)
          (by decide +kernel)⟩,
        ⟨by decide +kernel, Tree.isClear_of_vacant (by decide +kernel) (by decide +kernel)
          (by decide +kernel)⟩⟩
      artifact := by decide +kernel }

-- A listing that cannot be removed, and is there on one side alone, stops the run on that side.
example : (run (workshop.behaving diligent) offer
    { used with disk := { used.disk with held := fun _ => some ⟨.denied, by decide⟩ } }).1.toOption
      = none := by
  decide +kernel

end Pipeline

end DeployForge
