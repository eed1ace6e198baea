import DeployForge.Proofs.Batch.Course
import DeployForge.Proofs.Profile
import DeployForge.Proofs.Transaction.Atomicity
import Mathlib.Data.List.Forall2

namespace DeployForge.Batch

variable {σ : Type}

section Substitution

def SameIgnoringCase (s t : String) : Prop :=
  List.Forall₂ (fun a b => a.toLower = b.toLower) s.toList t.toList

lemma sameIgnoringCase_iff (s t : String) :
    s.toList.map Char.toLower = t.toList.map Char.toLower ↔ SameIgnoringCase s t := by
  rw [SameIgnoringCase, ← List.forall₂_eq_eq_eq, List.forall₂_map_left_iff,
    List.forall₂_map_right_iff]

instance (s t : String) : Decidable (SameIgnoringCase s t) :=
  decidable_of_iff _ (sameIgnoringCase_iff s t)

variable (request : BatchRequest) (project : Project) (environment : Variables)

def baseProfile : Profile :=
  match request.action with
  | .build | .run => if request.options.testnet then .testnet else .mainnet
  | .test => .test
  | .deployFunctions => if request.options.testConstants then .test else .mainnet

def Overrides (target : String) : Prop :=
  match request.action with
  | .build | .run => False
  | .test => SameIgnoringCase target project.profiles.aggregator
  | .deployFunctions => request.options.testConstants = true

instance (target : String) : Decidable (Overrides request project target) := by
  unfold Overrides
  cases request.action <;> infer_instance

/-- The set that the step of a target is to see applied. -/
def substituted (target : String) : ReplacementSet :=
  let base := project.configured environment (baseProfile request)
  if Overrides request project target then
    base.override project.profiles.overrideToken project.profiles.overrideValue
  else base

lemma isAggregator_iff (target : String) :
    project.profiles.isAggregator target = true ↔
      SameIgnoringCase target project.profiles.aggregator := by
  rw [Profiles.isAggregator, decide_eq_true_eq, sameIgnoringCase_iff]

lemma targetSet_eq (target : String) :
    request.targetSet project environment target =
      substituted request project environment target := by
  rcases request with ⟨action, selection, options⟩
  simp only [BatchRequest.targetSet, BatchRequest.baseSet, Project.replacementSet_eq]
  cases action with
  | build =>
    simp [BatchRequest.network, substituted, baseProfile, Overrides]
  | run =>
    simp [BatchRequest.network, substituted, baseProfile, Overrides]
  | test =>
    simp [Profiles.overridden, substituted, baseProfile, Overrides, isAggregator_iff]
  | deployFunctions =>
    cases ht : options.testConstants <;>
      simp [Profiles.overridden, substituted, baseProfile, Overrides, ht]

end Substitution

variable (bench : Bench σ) (request : BatchRequest) (original : String)

def Holds (content : String) (site : Site σ) : Prop :=
  site.disk.readText bench.paths.constants = .ok content

def Moment.Keeps (jobs : List Job) : Moment σ → Prop
  | .starts _ _ site => Holds bench original site
  | .enters index job site => jobs[index]? = some job ∧
      Holds bench
        ((substituted request bench.project bench.environment job.name).apply original) site
  | .finishes _ _ site => Holds bench original site

/-- An error that says that the constants may still be the substituted ones. -/
def IsLoss : Error → Prop
  | .restore _ _ => True
  | _ => False

variable {bench request original}

lemma prepareFor_ok {job : Job} {d d' : Disk} {guard : ConstantsGuard}
    (h : d.readText bench.paths.constants = .ok original)
    (hp : prepareFor bench request job d = (.ok guard, d')) :
    guard = { file := constants bench, snapshot := original } ∧
      d'.readText bench.paths.constants =
        .ok ((substituted request bench.project bench.environment job.name).apply original) := by
  rw [prepareFor, targetSet_eq] at hp
  have hprepared := (constants bench).prepared
    (substituted request bench.project bench.environment job.name) d
  rw [hp] at hprepared
  cases hprepared with
  | written hread _ hseen =>
    obtain rfl := Except.ok.inj (h.symm.trans hread)
    exact ⟨rfl, hseen⟩

lemma prepareFor_error {job : Job} {d d' : Disk} {e : Error}
    (h : d.readText bench.paths.constants = .ok original)
    (hp : prepareFor bench request job d = (.error e, d')) (he : ¬ IsLoss e) :
    d'.readText bench.paths.constants = .ok original := by
  rw [prepareFor] at hp
  have hprepared := (constants bench).prepared
    (request.targetSet bench.project bench.environment job.name) d
  rw [hp] at hprepared
  cases hprepared with
  | unread hread => cases h.symm.trans hread
  | rolledBack hread _ _ hkept =>
    obtain rfl := Except.ok.inj (h.symm.trans hread)
    exact hkept
  | lost => exact absurd trivial he

lemma restore_ok (file : ConstantsFile) {d d' : Disk}
    (h : ConstantsGuard.restore { file, snapshot := original } d = (.ok (), d')) :
    d'.readText file.path = .ok original := by
  rw [ConstantsGuard.restore_of_pending rfl, ConstantsFile.writeBack] at h
  split at h
  · cases h
  · next hw =>
    cases h
    exact Disk.readText_of_writeText hw

lemma restore_error {d d' : Disk} {file : ConstantsFile} {e : Error}
    (h : ConstantsGuard.restore { file, snapshot := original } d = (.error e, d')) : IsLoss e := by
  rw [ConstantsGuard.restore_of_pending rfl, ConstantsFile.writeBack] at h
  split at h
  · cases h
    trivial
  · cases h

lemma Proceeds.keeps {total index : ℕ} {jobs all : List Job} {site final : Site σ}
    {moments : List (Moment σ)} {result : Except Error (List TargetOutcome)}
    (hp : Proceeds bench request total index jobs site moments result final)
    (hall : all.drop index = jobs) (h : Holds bench original site) :
    (∀ moment ∈ moments, moment.Keeps bench request original all) ∧
      ((∀ e, result = .error e → ¬ IsLoss e) → Holds bench original final) := by
  -- Each job starts where the file holds the original, and hands it on like that or stops.
  induction hp with
  | done => exact ⟨by simp, fun _ => h⟩
  | refused hstart hprep =>
    subst hstart
    refine ⟨by simpa [Moment.Keeps] using h, fun hresult => ?_⟩
    exact prepareFor_error h hprep (hresult _ rfl)
  | @lost index job rest site started guard disk outcome after e disk' hstart hprep hs hb =>
    subst hstart
    obtain ⟨rfl, hseen⟩ := prepareFor_ok h hprep
    have hjob : all[index]? = some job := by rw [← List.head?_drop, hall, List.head?_cons]
    refine ⟨by simpa [Moment.Keeps] using ⟨h, hjob, hseen⟩, fun hresult => ?_⟩
    exact absurd (restore_error hb) (hresult _ rfl)
  | @next index job rest site started guard disk outcome after disk' moments result final
      hstart hprep hs hb _ ih =>
    subst hstart
    obtain ⟨rfl, hseen⟩ := prepareFor_ok h hprep
    have hjob : all[index]? = some job := by rw [← List.head?_drop, hall, List.head?_cons]
    have hrest : all.drop (index + 1) = rest := by rw [← List.tail_drop, hall, List.tail_cons]
    have hkept : disk'.readText bench.paths.constants = .ok original :=
      restore_ok (constants bench) hb
    obtain ⟨hmoments, hfinal⟩ := ih hrest hkept
    refine ⟨?_, fun hresult => hfinal fun e he => hresult e (by rw [he]; rfl)⟩
    intro moment hmem
    simp only [List.mem_cons] at hmem
    rcases hmem with rfl | rfl | rfl | hmem
    · exact h
    · exact ⟨hjob, hseen⟩
    · exact hkept
    · exact hmoments moment hmem

/-- Tools may do anything to the file while a target runs, and any write may fail. Even so a loss
is the only way to leave it other than it was. -/
theorem constants_kept (bench : Bench σ) (request : BatchRequest) (original : String)
    (site : Site σ) (h : Holds bench original site) :
    ∃ moments, Passes bench request site moments
        (run bench request site).1 (run bench request site).2 ∧
      (∀ moment ∈ moments, ∃ jobs, request.jobs bench.project = .ok jobs ∧
        moment.Keeps bench request original jobs) ∧
      ((∀ e, (run bench request site).1 = .error e → ¬ IsLoss e) →
        Holds bench original (run bench request site).2) := by
  have hrun : run bench request site =
      ((run bench request site).1, (run bench request site).2) := rfl
  obtain ⟨moments, hp⟩ := run_eq_iff_passes.mp hrun
  refine ⟨moments, hp, ?_⟩
  generalize (run bench request site).1 = result, (run bench request site).2 = final at hp ⊢
  cases hp with
  | unresolved hjobs => exact ⟨by simp, fun _ => h⟩
  | @resolved jobs _ outcomes _ hjobs hproceeds =>
    obtain ⟨hmoments, hfinal⟩ := hproceeds.keeps (List.drop_zero ..) h
    refine ⟨fun moment hmem => ⟨jobs, hjobs, hmoments moment hmem⟩, fun hresult => hfinal ?_⟩
    intro e he
    exact hresult e (by rw [he]; rfl)

def emptying : Bench Unit where
  project :=
    { paths := {}, tools := {}, probe := {}, contracts := ["MARKETPLACE", "Offer"]
      registry := .empty
      profiles :=
        { mainnet := [], testnet := []
          test := [{ token := "ADDRESS", value := some "shared" }]
          aggregator := "marketplace", overrideToken := "ADDRESS", overrideValue := "own" } }
  environment := []
  paths := { constants := ⟨"constants.tolk"⟩ }
  tools :=
    { run := fun _ _ _ site =>
        (.ok {}, { site with disk := (site.disk.writeText ⟨"constants.tolk"⟩ "").2 })
      sandbox := fun _ _ _ site => (.ok "", site)
      notify := fun _ _ _ => () }

def address : String := "address(\"ADDRESS\")"

def stocked : Site Unit := ⟨(({} : Disk).writeText ⟨"constants.tolk"⟩ address).2, ()⟩

lemma holds_stocked : Holds emptying address stocked := by
  have hwrite : Disk.writeText {} ⟨"constants.tolk"⟩ address = (.ok (), stocked.disk) := rfl
  exact Disk.readText_of_writeText hwrite

theorem constants_kept_emptying :
    Holds emptying address stocked ∧
    ∃ moments, Passes emptying ⟨.test, .all, {}⟩ stocked moments
        (run emptying ⟨.test, .all, {}⟩ stocked).1 (run emptying ⟨.test, .all, {}⟩ stocked).2 ∧
      (∀ moment ∈ moments,
        ∃ jobs, BatchRequest.jobs ⟨.test, .all, {}⟩ emptying.project = .ok jobs ∧
          moment.Keeps emptying ⟨.test, .all, {}⟩ address jobs) ∧
      ((∀ e, (run emptying ⟨.test, .all, {}⟩ stocked).1 = .error e → ¬ IsLoss e) →
        Holds emptying address (run emptying ⟨.test, .all, {}⟩ stocked).2) :=
  ⟨holds_stocked, constants_kept emptying ⟨.test, .all, {}⟩ address stocked holds_stocked⟩

end DeployForge.Batch
