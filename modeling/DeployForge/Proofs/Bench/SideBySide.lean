import DeployForge.Bench
import DeployForge.Proofs.Disk.TwinDisks

namespace DeployForge

variable {σ α β : Type}

structure Effect (α : Type) where
  result : Except Error α
  listing : Option ByteArray := none
  compiled : Option ByteArray := none

structure Behaviour where
  compile : Except IoError ByteArray → Except IoError ByteArray →
    ToolCommand → List String → OutputMode → Effect ToolOutput
  sandbox : Except IoError ByteArray → Except IoError ByteArray →
    Program → String → ℕ → Effect String

def Disk.putAny (d : Disk) (p : Path) : Option ByteArray → Disk
  | none => d
  | some content => d.put p content

lemma Disk.Twins.putAny {T : Terrain} {known : List Location} {d d' : Disk} {p : Path}
    (h : d.Twins T known d') (hp : p ∈ T.files) (hleads : T.Fixed p ∨ T.loose p)
    (content : Option ByteArray) : (d.putAny p content).Twins T known (d'.putAny p content) := by
  cases content with
  | none => exact h
  | some content => exact h.put hp hleads content

def Work.acting (paths : PathsConfig)
    (act : Except IoError ByteArray → Except IoError ByteArray → Effect α) : Work σ α := fun site =>
  let effect := act (site.disk.read paths.constants) (site.disk.read paths.probeSource)
  let disk := (site.disk.putAny paths.listing effect.listing).putAny paths.compiled effect.compiled
  (effect.result, { site with disk })

def Bench.behaving (bench : Bench σ) (behaviour : Behaviour) : Bench σ where
  project := bench.project
  environment := bench.environment
  paths := bench.paths
  tools :=
    { run := fun command args mode => .acting bench.paths fun constants probe =>
        behaviour.compile constants probe command args mode
      sandbox := fun program getter value => .acting bench.paths fun constants probe =>
        behaviour.sandbox constants probe program getter value
      notify := bench.tools.notify }

namespace Work

/-- From disks in the relation `P` the work has one result, and a success leaves them in `Q`. -/
def RunsAlike (P : Disk → Disk → Prop) (w : Work σ α) (Q : α → Disk → Disk → Prop) : Prop :=
  ∀ site site', P site.disk site'.disk →
    Agree (fun a after after' => Q a after.disk after'.disk) (w site) (w site')

variable {P : Disk → Disk → Prop} {Q : α → Disk → Disk → Prop} {R : β → Disk → Disk → Prop}
  {w : Work σ α}

lemma RunsAlike.bind {f : α → Work σ β} (hw : w.RunsAlike P Q)
    (hf : ∀ a, (f a).RunsAlike (Q a) R) : (w >>= f).RunsAlike P R := by
  intro site site' hP
  rcases (hw site site' hP).error_or_ok with ⟨e, s, s', h, h'⟩ | ⟨a, s, s', h, h', hQ⟩
  · rw [bind_of_error h, bind_of_error h']
    exact .error e s s'
  · rw [bind_of_ok h, bind_of_ok h']
    exact hf a s s' hQ

lemma runsAlike_onDisk {action : Disk → Except Error α × Disk}
    (h : ∀ d d', P d d' → Agree Q (action d) (action d')) :
    (onDisk action : Work σ α).RunsAlike P Q :=
  fun _ _ hP => ⟨(h _ _ hP).result, (h _ _ hP).related⟩

lemma runsAlike_readDisk {action : Disk → Except Error α}
    (h : ∀ d d', P d d' → action d = action d') :
    (readDisk action : Work σ α).RunsAlike P fun _ => P :=
  fun _ _ hP => ⟨h _ _ hP, fun _ _ => hP⟩

lemma runsAlike_pure (a : α) : (pure a : Work σ α).RunsAlike (Q a) Q := fun _ _ hQ => .ok hQ

lemma runsAlike_lift (x : Except Error α) : (liftM x : Work σ α).RunsAlike P fun _ => P := by
  intro site site' hP
  rw [lift_apply, lift_apply]
  exact ⟨rfl, fun _ _ => hP⟩

lemma RunsAlike.adapt (h : w.RunsAlike P Q) (f : Error → Error) :
    Work.RunsAlike P (ExceptT.adapt f w) Q := by
  intro site site' hP
  rw [adapt_apply, adapt_apply]
  exact (h site site' hP).mapError f

variable {T : Terrain} {known : List Location} {paths : PathsConfig}

lemma runsAlike_acting {act : Except IoError ByteArray → Except IoError ByteArray → Effect α}
    (hfiles : ∀ p ∈ [paths.constants, paths.probeSource, paths.listing, paths.compiled],
      p ∈ T.files ∧ (T.Fixed p ∨ T.loose p))
    (hconstants : paths.constants.location T.place ∈ known)
    (hprobe : paths.probeSource.location T.place ∈ known) :
    (acting paths act : Work σ α).RunsAlike (Disk.Twins T known) fun _ => Disk.Twins T known := by
  intro site site' h
  obtain ⟨hc, hleads⟩ := hfiles paths.constants (by simp)
  obtain ⟨hp, hleads'⟩ := hfiles paths.probeSource (by simp)
  obtain ⟨hl, hleadsl⟩ := hfiles paths.listing (by simp)
  obtain ⟨ho, hleadso⟩ := hfiles paths.compiled (by simp)
  rw [acting, acting, h.read_eq hc hleads hconstants, h.read_eq hp hleads' hprobe]
  exact ⟨rfl, fun _ _ => (h.putAny hl hleadsl _).putAny ho hleadso _⟩

end Work

namespace Bench

variable (bench : Bench σ) (behaviour : Behaviour)

lemma runsAlike_notify {P : Disk → Disk → Prop} (event : Event) :
    (bench.notify event).RunsAlike P fun _ => P :=
  fun _ _ hP => .ok hP

variable {T : Terrain} {known : List Location}
  (hfiles : ∀ p ∈ [bench.paths.constants, bench.paths.probeSource, bench.paths.listing,
    bench.paths.compiled], p ∈ T.files ∧ (T.Fixed p ∨ T.loose p))
  (hconstants : bench.paths.constants.location T.place ∈ known)
  (hprobe : bench.paths.probeSource.location T.place ∈ known)

include hfiles hconstants hprobe

lemma runsAlike_runChecked (command : ToolCommand) (args : List String) (mode : OutputMode) :
    ((bench.behaving behaviour).runChecked command args mode).RunsAlike (Disk.Twins T known)
      fun _ => Disk.Twins T known := by
  have hrun : (bench.behaving behaviour).tools.run command args mode =
      .acting bench.paths fun constants probe =>
        behaviour.compile constants probe command args mode :=
    rfl
  rw [runChecked, hrun]
  exact (Work.runsAlike_acting hfiles hconstants hprobe).bind fun _ => Work.runsAlike_lift _

lemma runsAlike_sandbox (program : Program) (getter : String) (value : ℕ) :
    ((bench.behaving behaviour).tools.sandbox program getter value).RunsAlike
      (Disk.Twins T known) fun _ => Disk.Twins T known := by
  have hrun : (bench.behaving behaviour).tools.sandbox program getter value =
      .acting bench.paths fun constants probe =>
        behaviour.sandbox constants probe program getter value :=
    rfl
  rw [hrun]
  exact Work.runsAlike_acting hfiles hconstants hprobe

end Bench

end DeployForge
