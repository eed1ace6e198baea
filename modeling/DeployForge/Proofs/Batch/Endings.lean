import DeployForge.Proofs.Batch.Outcomes
import DeployForge.Proofs.Batch.View
import DeployForge.Proofs.Registry
import DeployForge.Proofs.Transaction.Atomicity

/-!
How a batch can end. Nothing but the constants file stops it once its targets are known, and all
else that fails is the outcome of a target.
-/

namespace DeployForge

namespace Batch

variable {σ : Type} (bench : Bench σ) (request : BatchRequest)

def substitute (job : Job) (original : String) : String :=
  (request.targetSet bench.project bench.environment job.name).apply original

/-- A job with all that is read and written for its constants, and the log of what came between. -/
inductive Handles (job : Job) (site : Site σ) : Except Error TargetOutcome → Site σ → Log → Prop
  | unread {cause} : site.disk.readText bench.paths.constants = .error cause →
      Handles job site (.error (.read bench.paths.constants cause)) site []
  | unwritten {original cause d d'} : site.disk.readText bench.paths.constants = .ok original →
      site.disk.writeText bench.paths.constants (substitute bench request job original) =
        (.error cause, d) →
      d.writeText bench.paths.constants original = (.ok (), d') →
      Handles job site (.error (.write bench.paths.constants cause)) { site with disk := d' } []
  | unrolled {original cause cause' d d'} :
      site.disk.readText bench.paths.constants = .ok original →
      site.disk.writeText bench.paths.constants (substitute bench request job original) =
        (.error cause, d) →
      d.writeText bench.paths.constants original = (.error cause', d') →
      Handles job site (.error (.restore bench.paths.constants cause')) { site with disk := d' } []
  | unrestored {original d result after cause d'} :
      site.disk.readText bench.paths.constants = .ok original →
      site.disk.writeText bench.paths.constants (substitute bench request job original) =
        (.ok (), d) →
      perform bench request job { site with disk := d } = (result, after) →
      after.disk.writeText bench.paths.constants original = (.error cause, d') →
      Handles job site (.error (.restore bench.paths.constants cause)) { after with disk := d' }
        ((perform bench.logged request job).log { site with disk := d })
  | settled {original d result after d' outcome} :
      site.disk.readText bench.paths.constants = .ok original →
      site.disk.writeText bench.paths.constants (substitute bench request job original) =
        (.ok (), d) →
      perform bench request job { site with disk := d } = (result, after) →
      after.disk.writeText bench.paths.constants original = (.ok (), d') →
      Becomes job.name result outcome →
      Handles job site (.ok outcome) { after with disk := d' }
        ((perform bench.logged request job).log { site with disk := d })

inductive Processes (total : ℕ) :
    ℕ → List Job → Site σ → List TargetOutcome → Site σ → Log → Prop
  | nil {index site} : Processes total index [] site [] site []
  | cons {index job rest site outcome after own outcomes final log} :
      Handles bench request job (told bench (.targetStarted job.name index total) site)
        (.ok outcome) after own →
      Processes total (index + 1) rest (told bench (.targetFinished outcome) after)
        outcomes final log →
      Processes total index (job :: rest) site (outcome :: outcomes) final
        (.told (.targetStarted job.name index total) site.disk :: own ++
          .told (.targetFinished outcome) after.disk :: log)

/-- All ways for a batch to end, with what is left and the log of what was asked for and told. -/
inductive Ends (site : Site σ) : Except Error BatchReport → Site σ → Log → Prop
  | scriptless : request.action = .run → request.selection = .all →
      Ends site (.error (.config "run needs a script name")) site []
  | unregistered {name} : request.action = .deployFunctions → request.selection = .named name →
      name ∉ bench.project.registry.names →
      Ends site (.error (.unknownTarget name (", ".intercalate bench.project.registry.names))) site
        []
  | stopped {jobs done job rest outcomes before early e final own} :
      request.jobs bench.project = .ok jobs → jobs = done ++ job :: rest →
      Processes bench request jobs.length 0 done site outcomes before early →
      Handles bench request job
        (told bench (.targetStarted job.name done.length jobs.length) before)
        (.error e) final own →
      Ends site (.error e) final
        (early ++ .told (.targetStarted job.name done.length jobs.length) before.disk :: own)
  | finished {jobs outcomes final log} : request.jobs bench.project = .ok jobs →
      Processes bench request jobs.length 0 jobs site outcomes final log →
      Ends site (.ok ⟨request.action, outcomes⟩) final log

lemma exists_handles (job : Job) (site : Site σ) :
    ∃ result final log, Handles bench request job site result final log := by
  cases hread : site.disk.readText bench.paths.constants with
  | error cause => exact ⟨_, _, _, .unread hread⟩
  | ok original =>
    rcases hwrite : site.disk.writeText bench.paths.constants
      (substitute bench request job original) with ⟨cause | _, d⟩
    · rcases hback : d.writeText bench.paths.constants original with ⟨cause' | _, d'⟩
      · exact ⟨_, _, _, .unrolled hread hwrite hback⟩
      · exact ⟨_, _, _, .unwritten hread hwrite hback⟩
    · rcases hperform : perform bench request job { site with disk := d } with ⟨result, after⟩
      rcases hback : after.disk.writeText bench.paths.constants original with ⟨cause | _, d'⟩
      · exact ⟨_, _, _, .unrestored hread hwrite hperform hback⟩
      · exact ⟨_, _, _, .settled hread hwrite hperform hback (becomes_outcome _ _)⟩

lemma exists_processes (total index : ℕ) (jobs : List Job) (site : Site σ) :
    (∃ outcomes final log, Processes bench request total index jobs site outcomes final log) ∨
      ∃ done job rest outcomes before early e final own, jobs = done ++ job :: rest ∧
        Processes bench request total index done site outcomes before early ∧
        Handles bench request job
          (told bench (.targetStarted job.name (index + done.length) total) before)
          (.error e) final own := by
  induction jobs generalizing index site with
  | nil => exact .inl ⟨_, _, _, .nil⟩
  | cons job rest ih =>
    obtain ⟨result, after, own, hjob⟩ :=
      exists_handles bench request job (told bench (.targetStarted job.name index total) site)
    cases result with
    | error e => exact .inr ⟨[], job, rest, [], site, [], e, after, own, rfl, .nil, hjob⟩
    | ok outcome =>
      rcases ih (index + 1) (told bench (.targetFinished outcome) after) with
        ⟨outcomes, final, log, hrest⟩ |
        ⟨done, other, others, outcomes, before, early, e, final, late, rfl, hdone, hother⟩
      · exact .inl ⟨_, _, _, .cons hjob hrest⟩
      · refine .inr ⟨job :: done, other, others, _, before, _, e, final, late, rfl,
          .cons hjob hdone, ?_⟩
        rwa [List.length_cons, Nat.add_comm done.length, ← Nat.add_assoc]

variable {bench request}

def Prepares (bench : Bench σ) (request : BatchRequest) (job : Job) (d : Disk)
    (result : Except Error ConstantsGuard × Disk) : Prop :=
  (constants bench).Prepared (request.targetSet bench.project bench.environment job.name) d result

lemma Prepares.prepareFor_eq {job : Job} {d : Disk} {result : Except Error ConstantsGuard × Disk}
    (h : Prepares bench request job d result) : prepareFor bench request job d = result :=
  h.prepare_eq

lemma step_of_perform {job : Job} {site after : Site σ} {result : Except Error (Option Path)}
    (h : perform bench request job site = (result, after)) :
    step bench request job site = (.returned (.ok (outcome job.name result)), after) := by
  rw [step, h]

lemma Handles.runJob_eq {job : Job} {site final : Site σ} {result : Except Error TargetOutcome}
    {log : Log} (h : Handles bench request job site result final log) :
    runJob bench request job site = (result, final) ∧
      (runJob bench.logged request job).log site = log := by
  cases h with
  | @unread cause hread =>
    have hp : Prepares bench request job site.disk
        (.error (.read bench.paths.constants cause), site.disk) :=
      .unread hread
    exact ⟨runJob_refused hp.prepareFor_eq, log_runJob_refused hp.prepareFor_eq⟩
  | @unwritten original cause d d' hread hwrite hback =>
    have hp : Prepares bench request job site.disk
        (.error (.write bench.paths.constants cause), d') :=
      .rolledBack hread hwrite hback (Disk.readText_of_writeText hback)
    exact ⟨runJob_refused hp.prepareFor_eq, log_runJob_refused hp.prepareFor_eq⟩
  | @unrolled original cause cause' d d' hread hwrite hback =>
    have hp : Prepares bench request job site.disk
        (.error (.restore bench.paths.constants cause'), d') :=
      .lost hread hwrite hback
    exact ⟨runJob_refused hp.prepareFor_eq, log_runJob_refused hp.prepareFor_eq⟩
  | @unrestored original d _ after cause d' hread hwrite hperform hback =>
    have hp : Prepares bench request job site.disk
        (.ok { file := constants bench, snapshot := original }, d) :=
      .written hread hwrite (Disk.readText_of_writeText hwrite)
    have hlost : (constants bench).writeBack original after.disk =
        (.error (.restore bench.paths.constants cause), d') :=
      ConstantsFile.writeBack_error hback
    refine ⟨?_, log_runJob_prepared hp.prepareFor_eq⟩
    rw [runJob_settled hp.prepareFor_eq (step_of_perform hperform),
      ConstantsGuard.restore_of_pending rfl, hlost]
  | @settled original d _ after d' _ hread hwrite hperform hback hbecomes =>
    obtain rfl := hbecomes.eq
    have hp : Prepares bench request job site.disk
        (.ok { file := constants bench, snapshot := original }, d) :=
      .written hread hwrite (Disk.readText_of_writeText hwrite)
    have hrestored : (constants bench).writeBack original after.disk = (.ok (), d') :=
      ConstantsFile.writeBack_ok hback
    refine ⟨?_, log_runJob_prepared hp.prepareFor_eq⟩
    rw [runJob_settled hp.prepareFor_eq (step_of_perform hperform),
      ConstantsGuard.restore_of_pending rfl, hrestored]

section Sequence

variable {total index : ℕ} {job : Job} {rest : List Job} {site after final : Site σ}

lemma runJob_logged_told {result : Except Error TargetOutcome}
    (h : runJob bench request job (told bench (.targetStarted job.name index total) site) =
      (result, after)) :
    runJob bench.logged request job
        (told bench.logged (.targetStarted job.name index total) (site.logging [])) =
      (result, after.logging (.told (.targetStarted job.name index total) site.disk ::
        (runJob bench.logged request job).log
          (told bench (.targetStarted job.name index total) site))) := by
  have hlogged := logs_runJob bench request job
    (told bench (.targetStarted job.name index total) site)
    [.told (.targetStarted job.name index total) site.disk]
  rw [h] at hlogged
  exact hlogged

lemma log_runJobs_cons_error {e : Error}
    (h : runJob bench request job (told bench (.targetStarted job.name index total) site) =
      (.error e, final)) :
    (runJobs bench.logged request index total (job :: rest)).log site =
      .told (.targetStarted job.name index total) site.disk ::
        (runJob bench.logged request job).log
          (told bench (.targetStarted job.name index total) site) := by
  rw [Work.log, runJobs_cons_error (runJob_logged_told h)]
  rfl

lemma log_runJobs_cons_ok {o : TargetOutcome}
    (h : runJob bench request job (told bench (.targetStarted job.name index total) site) =
      (.ok o, after)) :
    (runJobs bench.logged request index total (job :: rest)).log site =
      .told (.targetStarted job.name index total) site.disk ::
        (runJob bench.logged request job).log
          (told bench (.targetStarted job.name index total) site) ++
      .told (.targetFinished o) after.disk ::
        (runJobs bench.logged request (index + 1) total rest).log
          (told bench (.targetFinished o) after) := by
  -- The jobs behind log from where this one was told to be finished.
  let own := (runJob bench.logged request job).log
    (told bench (.targetStarted job.name index total) site)
  let early : Log := .told (.targetStarted job.name index total) site.disk :: own
  have htold : told bench.logged (.targetFinished o) (after.logging early) =
      (told bench (.targetFinished o) after).logging
        (early ++ [.told (.targetFinished o) after.disk]) :=
    rfl
  have hrest := logs_runJobs bench request (index + 1) total rest
    (told bench (.targetFinished o) after) (early ++ [.told (.targetFinished o) after.disk])
  rw [← htold] at hrest
  rw [Work.log, runJobs_cons_ok (runJob_logged_told h) hrest]
  exact List.append_assoc ..

end Sequence

lemma Processes.runJobs_eq {total index : ℕ} {jobs : List Job} {site final : Site σ}
    {outcomes : List TargetOutcome} {log : Log}
    (h : Processes bench request total index jobs site outcomes final log) :
    runJobs bench request index total jobs site = (.ok outcomes, final) ∧
      (runJobs bench.logged request index total jobs).log site = log := by
  induction h with
  | nil => exact ⟨rfl, rfl⟩
  | cons hjob _ ih =>
    obtain ⟨hrun, hlog⟩ := hjob.runJob_eq
    exact ⟨runJobs_cons_ok hrun ih.1, by rw [log_runJobs_cons_ok hrun, hlog, ih.2]⟩

lemma Processes.stopped {total index : ℕ} {done rest : List Job} {job : Job}
    {site before final : Site σ} {outcomes : List TargetOutcome} {early own : Log} {e : Error}
    (h : Processes bench request total index done site outcomes before early)
    (hjob : Handles bench request job
      (told bench (.targetStarted job.name (index + done.length) total) before)
      (.error e) final own) :
    runJobs bench request index total (done ++ job :: rest) site = (.error e, final) ∧
      (runJobs bench.logged request index total (done ++ job :: rest)).log site =
        early ++ .told (.targetStarted job.name (index + done.length) total) before.disk :: own := by
  induction h with
  | nil =>
    rw [List.length_nil, Nat.add_zero] at hjob ⊢
    obtain ⟨hrun, hlog⟩ := hjob.runJob_eq
    refine ⟨runJobs_cons_error hrun, ?_⟩
    rw [List.nil_append, List.nil_append, log_runJobs_cons_error hrun, hlog]
  | @cons index first done site outcome after own outcomes before early hfirst _ ih =>
    obtain ⟨hrun, hlog⟩ := hfirst.runJob_eq
    have hindex : index + (first :: done).length = index + 1 + done.length := by
      rw [List.length_cons, Nat.add_right_comm, Nat.add_assoc]
    rw [hindex] at hjob ⊢
    obtain ⟨hrest, hrestlog⟩ := ih hjob
    refine ⟨runJobs_cons_ok hrun hrest, ?_⟩
    rw [List.cons_append, log_runJobs_cons_ok hrun, hlog, hrestlog]
    simp

lemma ends_of_jobs_error {e : Error} (h : request.jobs bench.project = .error e) (site : Site σ) :
    Ends bench request site (.error e) site [] := by
  obtain ⟨action, selection, options⟩ := request
  cases action <;> cases selection <;> try cases h
  case run.all => exact .scriptless rfl rfl
  case deployFunctions.named name =>
    rcases bind_eq_error.mp h with hget | ⟨target, _, hreturn⟩
    · obtain ⟨hname, rfl⟩ := Registry.get_eq_error_iff.mp hget
      exact .unregistered rfl rfl hname
    · cases hreturn

lemma exists_ends (bench : Bench σ) (request : BatchRequest) (site : Site σ) :
    ∃ result final log, Ends bench request site result final log := by
  cases hjobs : request.jobs bench.project with
  | error e => exact ⟨_, _, _, ends_of_jobs_error hjobs site⟩
  | ok jobs =>
    rcases exists_processes bench request jobs.length 0 jobs site with
      ⟨outcomes, final, log, hall⟩ |
      ⟨done, job, rest, outcomes, before, early, e, final, own, hsplit, hdone, hjob⟩
    · exact ⟨_, _, _, .finished hjobs hall⟩
    · rw [Nat.zero_add] at hjob
      exact ⟨_, _, _, .stopped hjobs hsplit hdone hjob⟩

lemma log_run_of_error {e : Error} (h : request.jobs bench.project = .error e) (site : Site σ) :
    (run bench.logged request).log site = [] := by
  have hlogged : request.jobs bench.logged.project = .error e := h
  rw [Work.log, run_of_error hlogged]
  rfl

lemma log_run_of_ok {jobs : List Job} (h : request.jobs bench.project = .ok jobs) (site : Site σ) :
    (run bench.logged request).log site =
      (runJobs bench.logged request 0 jobs.length jobs).log site := by
  have hlogged : request.jobs bench.logged.project = .ok jobs := h
  have hruns : runJobs bench.logged request 0 jobs.length jobs (site.logging []) =
      ((runJobs bench.logged request 0 jobs.length jobs (site.logging [])).1,
        (runJobs bench.logged request 0 jobs.length jobs (site.logging [])).2) :=
    rfl
  rw [Work.log, run_of_ok hlogged hruns]
  rfl

lemma Ends.run_eq {site final : Site σ} {result : Except Error BatchReport} {log : Log}
    (h : Ends bench request site result final log) :
    run bench request site = (result, final) ∧ (run bench.logged request).log site = log := by
  cases h with
  | scriptless haction hselection =>
    have hjobs : request.jobs bench.project = .error (.config "run needs a script name") := by
      rw [BatchRequest.jobs, haction, hselection]
    exact ⟨run_of_error hjobs site, log_run_of_error hjobs site⟩
  | @unregistered name haction hselection hname =>
    have hjobs : request.jobs bench.project =
        .error (.unknownTarget name (", ".intercalate bench.project.registry.names)) := by
      rw [BatchRequest.jobs, haction, hselection]
      exact bind_eq_error.mpr (.inl (Registry.get_eq_error_iff.mpr ⟨hname, rfl⟩))
    exact ⟨run_of_error hjobs site, log_run_of_error hjobs site⟩
  | stopped hjobs hsplit hdone hjob =>
    rw [← Nat.zero_add (List.length _)] at hjob
    obtain ⟨hrun, hlog⟩ := hdone.stopped hjob
    rw [← hsplit, Nat.zero_add] at hlog
    rw [← hsplit] at hrun
    refine ⟨run_of_ok hjobs hrun, ?_⟩
    rw [log_run_of_ok hjobs, hlog]
  | finished hjobs hall =>
    obtain ⟨hrun, hlog⟩ := hall.runJobs_eq
    refine ⟨run_of_ok hjobs hrun, ?_⟩
    rw [log_run_of_ok hjobs, hlog]

/-- A run ends with an error in the ways that the endings list, and in no other. Whatever else a job
ran into is shown in the outcome it is handled with. -/
theorem run_iff_ends (bench : Bench σ) (request : BatchRequest) (site final : Site σ)
    (result : Except Error BatchReport) (log : Log) :
    run bench request site = (result, final) ∧ (run bench.logged request).log site = log ↔
      Ends bench request site result final log := by
  constructor
  · rintro ⟨hrun, hlog⟩
    obtain ⟨result', final', log', h⟩ := exists_ends bench request site
    obtain ⟨hrun', hlog'⟩ := h.run_eq
    obtain ⟨rfl, rfl⟩ := Prod.mk.inj (hrun.symm.trans hrun')
    obtain rfl := hlog.symm.trans hlog'
    exact h
  · exact Ends.run_eq

end Batch

end DeployForge
