import DeployForge.Proofs.Batch.Course
import DeployForge.Proofs.Bench.View

namespace DeployForge.Batch

variable {σ τ : Type} {view : σ → τ}

lemma target_outcome (name : String) (result : Except Error (Option Path)) :
    (outcome name result).target = name := by
  cases result <;> rfl

section Attempts

variable (bench : Bench σ) (request : BatchRequest)

def attempt (job : Job) : Work σ TargetOutcome := fun site =>
  (.ok (outcome job.name (perform bench request job site).1), (perform bench request job site).2)

lemma runJob_eq (job : Job) :
    runJob bench request job = (do
      let guard ← Work.onDisk (prepareFor bench request job)
      let outcome ← attempt bench request job
      Work.onDisk guard.restore
      return outcome) := by
  funext site
  rcases hp : prepareFor bench request job site.disk with ⟨e | guard, disk⟩
  · rw [runJob_refused hp, Work.bind_of_error (Work.onDisk_of hp)]
  · let ended := perform bench request job { site with disk }
    have hstep : step bench request job { site with disk } =
        (.returned (.ok (outcome job.name ended.1)), ended.2) :=
      rfl
    have hattempt : attempt bench request job { site with disk } =
        (.ok (outcome job.name ended.1), ended.2) :=
      rfl
    rw [runJob_settled hp hstep, Work.bind_of_ok (Work.onDisk_of hp), Work.bind_of_ok hattempt]
    rcases hr : guard.restore ended.2.disk with ⟨e | _, disk'⟩
    · rw [Work.bind_of_error (Work.onDisk_of hr)]
    · rw [Work.bind_of_ok (Work.onDisk_of hr)]
      rfl

end Attempts

section Views

variable {bench : Bench σ} {tools : Toolbox τ} (h : bench.tools.Maps view tools)
  (request : BatchRequest)

include h

lemma maps_perform (job : Job) :
    (perform bench request job).Maps view (perform (bench.withTools tools) request job) := by
  cases job with
  | contract name => exact (Bench.maps_runChecked h _ _ _).bind fun _ => Work.maps_pure none
  | deployFunction target =>
    exact (Pipeline.maps_run h target).bind fun path => Work.maps_pure (some path)

lemma maps_attempt (job : Job) :
    (attempt bench request job).Maps view (attempt (bench.withTools tools) request job) := by
  intro site
  rw [attempt, maps_perform h request job site]
  rfl

lemma maps_runJob (job : Job) :
    (runJob bench request job).Maps view (runJob (bench.withTools tools) request job) := by
  rw [runJob_eq, runJob_eq]
  exact (Work.maps_onDisk _).bind fun guard => (maps_attempt h request job).bind fun outcome =>
    (Work.maps_onDisk _).bind fun _ => Work.maps_pure outcome

lemma maps_runJobs (index total : ℕ) (jobs : List Job) :
    (runJobs bench request index total jobs).Maps view
      (runJobs (bench.withTools tools) request index total jobs) := by
  induction jobs generalizing index with
  | nil => exact Work.maps_pure []
  | cons job rest ih =>
    exact (Bench.maps_notify h _).bind fun _ => (maps_runJob h request job).bind fun outcome =>
      (Bench.maps_notify h _).bind fun _ => (ih (index + 1)).bind fun outcomes =>
      Work.maps_pure (outcome :: outcomes)

lemma maps_run : (run bench request).Maps view (run (bench.withTools tools) request) :=
  (Work.maps_lift _).bind fun jobs => (maps_runJobs h request 0 jobs.length jobs).bind
    fun outcomes => Work.maps_pure (BatchReport.mk request.action outcomes)

end Views

section Logs

variable (bench : Bench σ) (request : BatchRequest)

lemma logs_runJob (job : Job) :
    (runJob bench request job).Logs (runJob bench.logged request job) :=
  Work.logs_of_maps (maps_runJob bench.maps_forgetting request job)
    fun early => maps_runJob (bench.maps_prefixed early) request job

lemma logs_runJobs (index total : ℕ) (jobs : List Job) :
    (runJobs bench request index total jobs).Logs
      (runJobs bench.logged request index total jobs) :=
  Work.logs_of_maps (maps_runJobs bench.maps_forgetting request index total jobs)
    fun early => maps_runJobs (bench.maps_prefixed early) request index total jobs

variable {bench request}

lemma log_runJob_refused {job : Job} {site : Site σ} {e : Error} {disk : Disk}
    (h : prepareFor bench request job site.disk = (.error e, disk)) :
    (runJob bench.logged request job).log site = [] := by
  have hlogged : prepareFor bench.logged request job (site.logging []).disk = (.error e, disk) := h
  rw [Work.log, runJob_refused hlogged]
  rfl

lemma log_runJob_prepared {job : Job} {site : Site σ} {guard : ConstantsGuard} {disk : Disk}
    (h : prepareFor bench request job site.disk = (.ok guard, disk)) :
    (runJob bench.logged request job).log site =
      (perform bench.logged request job).log { site with disk } := by
  have hlogged : prepareFor bench.logged request job (site.logging []).disk = (.ok guard, disk) := h
  let ended := perform bench.logged request job (Site.logging { site with disk } [])
  have hstep : step bench.logged request job { site.logging [] with disk } =
      (.returned (.ok (outcome job.name ended.1)), ended.2) :=
    rfl
  rw [Work.log, runJob_settled hlogged hstep]
  rcases guard.restore ended.2.disk with ⟨e | _, disk'⟩
  · rfl
  · rfl

end Logs

end DeployForge.Batch
