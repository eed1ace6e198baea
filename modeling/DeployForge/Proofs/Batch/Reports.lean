import DeployForge.Proofs.Batch.Endings
import DeployForge.Proofs.Pipeline.Protocol

namespace DeployForge

namespace BatchReport

variable {report : BatchReport}

lemma status_eq_zero_iff : report.status = 0 ↔ ∀ o ∈ report.outcomes, o.isSuccess := by
  rw [status]
  cases hfind : (report.outcomes.map (·.status)).find? (· ≠ 0) with
  | none =>
    have hnone := List.find?_eq_none.mp hfind
    simpa [TargetOutcome.isSuccess] using hnone
  | some status =>
    have hstatus : status ≠ 0 := by simpa using List.find?_some hfind
    obtain ⟨o, ho, rfl⟩ := List.mem_map.mp (List.mem_of_find?_eq_some hfind)
    refine ⟨fun h => absurd h hstatus, fun h => absurd (h o ho) ?_⟩
    simpa [TargetOutcome.isSuccess] using hstatus

lemma status_eq_first {before rest : List TargetOutcome} {failed : TargetOutcome}
    (h : report.outcomes = before ++ failed :: rest) (hbefore : ∀ o ∈ before, o.isSuccess)
    (hfailed : failed.isSuccess = false) : report.status = failed.status := by
  have hnone : (before.map (·.status)).find? (· ≠ 0) = none := by
    simpa [TargetOutcome.isSuccess] using hbefore
  have hstatus : failed.status ≠ 0 := by simpa [TargetOutcome.isSuccess] using hfailed
  rw [status, h, List.map_append, List.find?_append, hnone, List.map_cons,
    List.find?_cons_of_pos (by simpa using hstatus)]
  rfl

end BatchReport

namespace Batch

variable {σ : Type} {bench : Bench σ} {request : BatchRequest} {name : String} {site : Site σ}

lemma status_outcome (result : Except Error (Option Path)) :
    (outcome name result).status = 0 ↔ ∃ artifact, result = .ok artifact := by
  cases result with
  | error e => simpa [outcome, TargetOutcome.failed] using e.exitCode_ne_zero
  | ok artifact => simp [outcome, TargetOutcome.succeeded]

lemma isSuccess_outcome (result : Except Error (Option Path)) :
    (outcome name result).isSuccess ↔ ∃ artifact, result = .ok artifact := by
  rw [TargetOutcome.isSuccess, decide_eq_true_eq, status_outcome]

lemma error_outcome (result : Except Error (Option Path)) :
    (outcome name result).error = none ↔ ∃ artifact, result = .ok artifact := by
  cases result with
  | error e => simp [outcome, TargetOutcome.failed]
  | ok artifact => simp [outcome, TargetOutcome.succeeded]

lemma status_eq_zero_iff_error (result : Except Error (Option Path)) :
    (outcome name result).status = 0 ↔ (outcome name result).error = none := by
  rw [status_outcome, error_outcome]

lemma perform_contract (name : String) (site : Site σ) :
    perform bench request (.contract name) site =
      (((bench.runChecked bench.project.tools.blueprint (request.toolArguments name) .inherit_
          site).1.map fun _ => none),
        (bench.runChecked bench.project.tools.blueprint (request.toolArguments name) .inherit_
          site).2) :=
  Work.bind_pure_apply _ _ site

lemma perform_deployFunction (target : BuildTarget) (site : Site σ) :
    perform bench request (.deployFunction target) site =
      ((Pipeline.run bench target site).1.map some, (Pipeline.run bench target site).2) :=
  Work.bind_pure_apply _ _ site

/-- A check of a tool's status fails with no stage, so a stage is what the runner itself said. -/
lemma result_of_check_stage {call : ToolCall} {command : ToolCommand} {e : Error} {s : Stage}
    (h : call.result >>= (·.check command) = .error e) (hs : e.stage? = some s) :
    ∃ target cause, call.result = .error (.stage target s cause) := by
  obtain ⟨target, cause, rfl⟩ : ∃ target cause, e = .stage target s cause := by
    cases e with
    | stage target s' cause =>
      cases hs
      exact ⟨target, cause, rfl⟩
    | _ => cases hs
  rcases bind_eq_error.mp h with hgave | ⟨output, _, hcheck⟩
  · exact ⟨target, cause, hgave⟩
  · rw [ToolOutput.check] at hcheck
    split at hcheck <;> cases hcheck

/-- An outcome that says truly how its target ended, given what the target asked for. A contract
has a stage only where whoever ran its tool reported one. -/
structure Tells (bench : Bench σ) (request : BatchRequest) (own : Log) (outcome : TargetOutcome) :
    Prop where
  error : outcome.status = 0 ↔ outcome.error = none
  artifact : outcome.artifact.isSome ↔ request.action = .deployFunctions ∧ outcome.status = 0
  stage : request.action = .deployFunctions → (outcome.stage.isSome ↔ outcome.status ≠ 0)
  reported : request.action ≠ .deployFunctions → ∀ s, outcome.stage = some s →
    outcome.status ≠ 0 ∧ ∃ (call : ToolCall) (target : String) (cause : Error),
      own = [.tool call] ∧ bench.Gives call ∧ call.command = bench.project.tools.blueprint ∧
      call.args = request.toolArguments outcome.target ∧ call.mode = .inherit_ ∧
      call.result = .error (.stage target s cause)

lemma tells_contract (haction : request.action ≠ .deployFunctions) (name : String)
    (site : Site σ) :
    Tells bench request ((perform bench.logged request (.contract name)).log site)
      (outcome name (perform bench request (.contract name) site).1) := by
  obtain ⟨call, _, hcommand, hargs, hmode, hgives, _, hlog, hchecked, _⟩ :=
    bench.runChecked_call bench.project.tools.blueprint (request.toolArguments name) .inherit_ site
  have hown : (perform bench.logged request (.contract name)).log site = [.tool call] :=
    (Work.log_bind_pure _ _ site).trans hlog
  rw [perform_contract, hown]
  cases hresult : (bench.runChecked bench.project.tools.blueprint (request.toolArguments name)
    .inherit_ site).1 with
  | error e =>
    refine ⟨status_eq_zero_iff_error _, ?_, fun h => absurd h haction, fun _ s hs => ?_⟩
    · simp [haction, outcome, TargetOutcome.failed, Except.map]
    · obtain ⟨target, cause, hgave⟩ := result_of_check_stage (hchecked.symm.trans hresult) hs
      exact ⟨Error.exitCode_ne_zero _, call, target, cause, rfl, hgives, hcommand, hargs, hmode,
        hgave⟩
  | ok output =>
    refine ⟨status_eq_zero_iff_error _, ?_, fun h => absurd h haction, nofun⟩
    simp [haction, outcome, TargetOutcome.succeeded, Except.map]

lemma tells_deployFunction (haction : request.action = .deployFunctions) (target : BuildTarget)
    (site : Site σ) :
    Tells bench request ((perform bench.logged request (.deployFunction target)).log site)
      (outcome target.name (perform bench request (.deployFunction target) site).1) := by
  rw [perform_deployFunction]
  obtain ⟨failed, _, hstops⟩ := Pipeline.orderly_run bench target site
  cases hresult : (Pipeline.run bench target site).1 with
  | error e =>
    rw [hresult] at hstops
    cases hstops with
    | @stage s cause =>
      have hstatus := cause.exitCode_ne_zero
      refine ⟨status_eq_zero_iff_error _, ?_, fun _ => ?_, fun h => absurd haction h⟩
      · simpa [haction, outcome, TargetOutcome.failed, Except.map, Error.exitCode] using hstatus
      · simpa [outcome, TargetOutcome.failed, Except.map, Error.exitCode, Error.stage?]
          using hstatus
  | ok path =>
    refine ⟨status_eq_zero_iff_error _, ?_, fun _ => ?_, fun h => absurd haction h⟩
    · simp [haction, outcome, TargetOutcome.succeeded, Except.map]
    · simp [outcome, TargetOutcome.succeeded, Except.map]

lemma action_of_mem_jobs {project : Project} {jobs : List Job} {job : Job}
    (h : request.jobs project = .ok jobs) (hjob : job ∈ jobs) :
    match job with
    | .contract _ => request.action ≠ .deployFunctions
    | .deployFunction _ => request.action = .deployFunctions := by
  obtain ⟨action, selection, options⟩ := request
  cases action <;> cases selection
  case run.all => cases h
  case deployFunctions.named name =>
    obtain ⟨target, _, hreturn⟩ := bind_eq_ok.mp h
    cases hreturn
    obtain rfl := List.mem_singleton.mp hjob
    rfl
  case deployFunctions.all =>
    cases h
    obtain ⟨target, _, rfl⟩ := List.mem_map.mp hjob
    rfl
  case build.all | test.all =>
    cases h
    obtain ⟨name, _, rfl⟩ := List.mem_map.mp hjob
    exact nofun
  case build.named | test.named | run.named =>
    cases h
    obtain rfl := List.mem_singleton.mp hjob
    exact nofun

section Sequence

variable {total index : ℕ} {jobs : List Job} {final : Site σ} {log : Log}
  {outcomes before rest : List TargetOutcome} {o : TargetOutcome}

lemma Processes.length_eq (h : Processes bench request total index jobs site outcomes final log) :
    outcomes.length = jobs.length := by
  induction h with
  | nil => rfl
  | cons _ _ ih => rw [List.length_cons, List.length_cons, ih]

lemma Processes.outcome_at (h : Processes bench request total index jobs site outcomes final log)
    (hsplit : outcomes = before ++ o :: rest) :
    ∃ job ∈ jobs, ∃ entered early late d d',
      o = outcome job.name (perform bench request job entered).1 ∧
      log = early ++ .told (.targetStarted job.name (index + before.length) total) d ::
        (perform bench.logged request job).log entered ++ .told (.targetFinished o) d' :: late := by
  induction h generalizing before with
  | nil => simp at hsplit
  | @cons index job jobs site first after own outcomes final log hjob _ ih =>
    cases before with
    | nil =>
      obtain ⟨rfl, rfl⟩ := List.cons.inj hsplit
      cases hjob with
      | settled _ _ hperform _ hbecomes =>
        exact ⟨job, List.mem_cons_self, _, [], log, _, _, by rw [hperform, hbecomes.eq], rfl⟩
    | cons head before =>
      obtain ⟨rfl, htail⟩ := List.cons.inj hsplit
      obtain ⟨other, hmem, entered, early, late, d, d', heq, rfl⟩ := ih htail
      refine ⟨other, List.mem_cons_of_mem _ hmem, entered,
        .told (.targetStarted job.name index total) site.disk :: own ++
          .told (.targetFinished first) after.disk :: early, late, d, d', heq, ?_⟩
      rw [List.length_cons, Nat.add_comm before.length, ← Nat.add_assoc]
      simp only [List.append_assoc, List.cons_append]

end Sequence

/-- A report whose every outcome is about what stands in the log between the start of its target
and the outcome itself. -/
structure Truthful (bench : Bench σ) (request : BatchRequest) (log : Log) (report : BatchReport) :
    Prop where
  outcomes : ∀ before o rest, report.outcomes = before ++ o :: rest → ∃ early own late d d',
    log = early ++ .told (.targetStarted o.target before.length report.outcomes.length) d :: own ++
      .told (.targetFinished o) d' :: late ∧ Tells bench request own o
  success : report.status = 0 ↔ ∀ o ∈ report.outcomes, o.isSuccess
  failure : ∀ before failed rest, report.outcomes = before ++ failed :: rest →
    (∀ o ∈ before, o.isSuccess) → failed.isSuccess = false → report.status = failed.status

lemma truthful_of_run {site final : Site σ} {report : BatchReport}
    (h : run bench request site = (.ok report, final)) :
    Truthful bench request ((run bench.logged request).log site) report where
  outcomes before o rest hsplit := by
    obtain ⟨result, final', log, hends⟩ := exists_ends bench request site
    obtain ⟨hrun, hlog⟩ := hends.run_eq
    obtain ⟨rfl, rfl⟩ := Prod.mk.inj (hrun.symm.trans h)
    rw [hlog]
    cases hends with
    | finished hjobs hall =>
      obtain ⟨job, hmem, entered, early, late, d, d', rfl, hsegment⟩ := hall.outcome_at hsplit
      rw [Nat.zero_add, ← hall.length_eq] at hsegment
      refine ⟨early, (perform bench.logged request job).log entered, late, d, d', ?_, ?_⟩
      · rw [target_outcome]
        exact hsegment
      · have haction := action_of_mem_jobs hjobs hmem
        cases job with
        | contract name => exact tells_contract haction name entered
        | deployFunction target => exact tells_deployFunction haction target entered
  success := BatchReport.status_eq_zero_iff
  failure _ _ _ hsplit := BatchReport.status_eq_first hsplit

end Batch

end DeployForge
