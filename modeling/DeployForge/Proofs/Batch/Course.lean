import DeployForge.Batch
import DeployForge.Proofs.Outcome

/-!
The course of a batch: the moments it passes through, each with the site as it is then. A run has
exactly the result and the site that its course ends with.
-/

namespace DeployForge.Batch

variable {σ : Type}

inductive Moment (σ : Type) where
  | starts (index : ℕ) (job : Job) (site : Site σ)
  | enters (index : ℕ) (job : Job) (site : Site σ)
  | finishes (index : ℕ) (outcome : TargetOutcome) (site : Site σ)

variable (bench : Bench σ) (request : BatchRequest)

def told (event : Event) (site : Site σ) : Site σ :=
  { site with outside := bench.tools.notify event site.disk site.outside }

def constants : ConstantsFile := ⟨bench.paths.constants⟩

def prepareFor (job : Job) (d : Disk) : Except Error ConstantsGuard × Disk :=
  (constants bench).prepare (request.targetSet bench.project bench.environment job.name) d

/-- Jobs taken one after the other, of `total` in all. The first is refused when its constants
cannot be put in, and lost when they cannot be taken out again. -/
inductive Proceeds (total : ℕ) : ℕ → List Job → Site σ →
    List (Moment σ) → Except Error (List TargetOutcome) → Site σ → Prop
  | done {index site} : Proceeds total index [] site [] (.ok []) site
  | refused {index job rest site started e disk} :
      started = told bench (.targetStarted job.name index total) site →
      prepareFor bench request job started.disk = (.error e, disk) →
      Proceeds total index (job :: rest) site [.starts index job site]
        (.error e) { started with disk }
  | lost {index job rest site started guard disk outcome after e disk'} :
      started = told bench (.targetStarted job.name index total) site →
      prepareFor bench request job started.disk = (.ok guard, disk) →
      step bench request job { started with disk } = (.returned (.ok outcome), after) →
      guard.restore after.disk = (.error e, disk') →
      Proceeds total index (job :: rest) site
        [.starts index job site, .enters index job { started with disk }]
        (.error e) { after with disk := disk' }
  | next {index job rest site started guard disk outcome after disk' moments result final} :
      started = told bench (.targetStarted job.name index total) site →
      prepareFor bench request job started.disk = (.ok guard, disk) →
      step bench request job { started with disk } = (.returned (.ok outcome), after) →
      guard.restore after.disk = (.ok (), disk') →
      Proceeds total (index + 1) rest
        (told bench (.targetFinished outcome) { after with disk := disk' }) moments result final →
      Proceeds total index (job :: rest) site
        (.starts index job site :: .enters index job { started with disk } ::
          .finishes index outcome { after with disk := disk' } :: moments)
        (result.map (outcome :: ·)) final

inductive Passes (site : Site σ) :
    List (Moment σ) → Except Error BatchReport → Site σ → Prop
  | unresolved {e} : request.jobs bench.project = .error e → Passes site [] (.error e) site
  | resolved {jobs moments result final} : request.jobs bench.project = .ok jobs →
      Proceeds bench request jobs.length 0 jobs site moments result final →
      Passes site moments (result.map (⟨request.action, ·⟩)) final

lemma notify_apply (event : Event) (site : Site σ) :
    bench.notify event site = (.ok (), told bench event site) :=
  rfl

lemma step_returns (job : Job) (site : Site σ) :
    ∃ outcome after, step bench request job site = (.returned (.ok outcome), after) :=
  ⟨_, _, rfl⟩

lemma exists_proceeds (total index : ℕ) (jobs : List Job) (site : Site σ) :
    ∃ moments result final, Proceeds bench request total index jobs site moments result final := by
  induction jobs generalizing index site with
  | nil => exact ⟨_, _, _, .done⟩
  | cons job rest ih =>
    let started := told bench (.targetStarted job.name index total) site
    cases hp : prepareFor bench request job started.disk with
    | mk prepared disk =>
      cases prepared with
      | error e => exact ⟨_, _, _, .refused rfl hp⟩
      | ok guard =>
        obtain ⟨outcome, after, hs⟩ := step_returns bench request job { started with disk }
        cases hb : guard.restore after.disk with
        | mk back disk' =>
          cases back with
          | error e => exact ⟨_, _, _, .lost rfl hp hs hb⟩
          | ok _ =>
            obtain ⟨moments, result, final, hrest⟩ :=
              ih (index + 1) (told bench (.targetFinished outcome) { after with disk := disk' })
            exact ⟨_, _, _, .next rfl hp hs hb hrest⟩

lemma exists_passes (site : Site σ) :
    ∃ moments result final, Passes bench request site moments result final := by
  cases hjobs : request.jobs bench.project with
  | error e => exact ⟨_, _, _, .unresolved hjobs⟩
  | ok jobs =>
    obtain ⟨moments, outcomes, final, hp⟩ := exists_proceeds bench request jobs.length 0 jobs site
    exact ⟨_, _, _, .resolved hjobs hp⟩

variable {bench request}

lemma runJob_refused {job : Job} {site : Site σ} {e : Error} {disk : Disk}
    (h : prepareFor bench request job site.disk = (.error e, disk)) :
    runJob bench request job site = (.error e, { site with disk }) := by
  rw [prepareFor, constants] at h
  simp only [runJob, ConstantsFile.transaction, h]

lemma runJob_settled {job : Job} {site after : Site σ} {guard : ConstantsGuard} {disk : Disk}
    {outcome : TargetOutcome} (h : prepareFor bench request job site.disk = (.ok guard, disk))
    (hs : step bench request job { site with disk } = (.returned (.ok outcome), after)) :
    runJob bench request job site =
      match guard.restore after.disk with
      | (.error e, disk) => (.error e, { after with disk })
      | (.ok (), disk) => (.ok outcome, { after with disk }) := by
  rw [prepareFor, constants] at h
  simp only [runJob, ConstantsFile.transaction, h, hs, ConstantsFile.settle]
  cases guard.restore after.disk with
  | mk back disk' => cases back <;> rfl

lemma runJobs_cons_error {index total : ℕ} {job : Job} {rest : List Job} {site final : Site σ}
    {e : Error} (h : runJob bench request job
      (told bench (.targetStarted job.name index total) site) = (.error e, final)) :
    runJobs bench request index total (job :: rest) site = (.error e, final) := by
  rw [runJobs, Work.bind_of_ok (notify_apply bench _ site), Work.bind_of_error h]

lemma runJobs_cons_ok {index total : ℕ} {job : Job} {rest : List Job} {site after final : Site σ}
    {outcome : TargetOutcome} {result : Except Error (List TargetOutcome)}
    (h : runJob bench request job (told bench (.targetStarted job.name index total) site) =
      (.ok outcome, after))
    (hr : runJobs bench request (index + 1) total rest
      (told bench (.targetFinished outcome) after) = (result, final)) :
    runJobs bench request index total (job :: rest) site =
      (result.map (outcome :: ·), final) := by
  rw [runJobs, Work.bind_of_ok (notify_apply bench _ site), Work.bind_of_ok h,
    Work.bind_of_ok (notify_apply bench _ after)]
  cases result with
  | error e => rw [Work.bind_of_error hr]; rfl
  | ok outcomes => rw [Work.bind_of_ok hr]; rfl

lemma Proceeds.runJobs_eq {total index : ℕ} {jobs : List Job} {site final : Site σ}
    {moments : List (Moment σ)} {result : Except Error (List TargetOutcome)}
    (h : Proceeds bench request total index jobs site moments result final) :
    runJobs bench request index total jobs site = (result, final) := by
  induction h with
  | done => rfl
  | refused hstart hp =>
    subst hstart
    exact runJobs_cons_error (runJob_refused hp)
  | lost hstart hp hs hb =>
    subst hstart
    apply runJobs_cons_error
    rw [runJob_settled hp hs, hb]
  | next hstart hp hs hb _ ih =>
    subst hstart
    refine runJobs_cons_ok ?_ ih
    rw [runJob_settled hp hs, hb]

lemma run_of_error {e : Error} (h : request.jobs bench.project = .error e) (site : Site σ) :
    run bench request site = (.error e, site) := by
  rw [run, h]
  rfl

lemma run_of_ok {jobs : List Job} {result : Except Error (List TargetOutcome)}
    {site final : Site σ} (h : request.jobs bench.project = .ok jobs)
    (hr : runJobs bench request 0 jobs.length jobs site = (result, final)) :
    run bench request site = (result.map (⟨request.action, ·⟩), final) := by
  rw [run, h]
  cases result with
  | error e => exact Work.bind_of_error hr _
  | ok outcomes => exact Work.bind_of_ok hr _

lemma Passes.run_eq {site final : Site σ} {moments : List (Moment σ)}
    {result : Except Error BatchReport} (h : Passes bench request site moments result final) :
    run bench request site = (result, final) := by
  cases h with
  | unresolved hjobs => exact run_of_error hjobs site
  | resolved hjobs hp => exact run_of_ok hjobs hp.runJobs_eq

theorem run_eq_iff_passes {site final : Site σ} {result : Except Error BatchReport} :
    run bench request site = (result, final) ↔
      ∃ moments, Passes bench request site moments result final := by
  constructor
  · intro hrun
    obtain ⟨moments, result', final', hp⟩ := exists_passes bench request site
    obtain ⟨rfl, rfl⟩ := Prod.mk.inj (hp.run_eq.symm.trans hrun)
    exact ⟨moments, hp⟩
  · rintro ⟨moments, hp⟩
    exact hp.run_eq

end DeployForge.Batch
