import DeployForge.Proofs.Batch.View
import DeployForge.Proofs.Registry

/-!
A batch over all targets is a run for each of them, one after the other. The two differ in what
the observer hears of how far the batch is, and in nothing else.
-/

namespace DeployForge

variable {σ τ : Type}

def Event.uncounted : Event → Event
  | targetStarted target _ _ => targetStarted target 0 0
  | event => event

def Entry.uncounted : Entry → Entry
  | told event seen => told event.uncounted seen
  | entry => entry

namespace Bench

def IgnoresCounts (bench : Bench σ) : Prop :=
  ∀ event, bench.tools.notify event = bench.tools.notify event.uncounted

def uncounted (bench : Bench σ) : Bench σ :=
  bench.withTools { bench.tools with notify := fun event => bench.tools.notify event.uncounted }

/-- All that the tools of `bench` find outside is in the view, and the view does not show how far
a batch is. -/
structure HidesCounts (bench : Bench σ) (view : σ → τ) (tools : Toolbox τ) : Prop where
  maps : bench.tools.Maps view tools
  ignores : (bench.withTools tools).IgnoresCounts

variable {bench : Bench σ} {view : σ → τ} {tools : Toolbox τ}

lemma HidesCounts.maps_logged (h : bench.HidesCounts view tools) :
    bench.logged.tools.Maps (Prod.map view (List.map Entry.uncounted))
      (bench.withTools tools).logged.uncounted.tools where
  run command args mode := by
    have hrun : (bench.withTools tools).logged.uncounted.tools.run command args mode =
        (bench.withTools tools).logged.tools.run command args mode :=
      rfl
    rw [hrun, run_eq_logged, run_eq_logged]
    exact Work.maps_logged (h.maps.run command args mode) _ fun _ _ => List.map_append
  sandbox program getter value := by
    have hsandbox : (bench.withTools tools).logged.uncounted.tools.sandbox program getter value =
        (bench.withTools tools).logged.tools.sandbox program getter value :=
      rfl
    rw [hsandbox, sandbox_eq_logged, sandbox_eq_logged]
    exact Work.maps_logged (h.maps.sandbox program getter value) _ fun _ _ => List.map_append
  notify event disk outside := by
    have hlog : (outside.2 ++ [Entry.told event disk]).map Entry.uncounted =
        outside.2.map Entry.uncounted ++ [.told event.uncounted disk] :=
      List.map_append
    have hevent : tools.notify event.uncounted = tools.notify event := (h.ignores event).symm
    refine Prod.ext ?_ hlog.symm
    exact (congrFun (congrFun hevent disk) _).trans (h.maps.notify event disk outside.1)

lemma ignoresCounts_uncounted (bench : Bench σ) : bench.uncounted.IgnoresCounts := by
  intro event
  cases event <;> rfl

end Bench

namespace Work

variable {α β : Type}

lemma log_uncounted {w : Work (σ × Log) α} {w' : Work (τ × Log) α} {view : σ → τ}
    (h : w.Maps (Prod.map view (List.map Entry.uncounted)) w') (site : Site σ) :
    (w.log site).map Entry.uncounted = w'.log (site.map view) := by
  have hlog := h (site.logging [])
  have hstart : (site.logging []).map (Prod.map view (List.map Entry.uncounted)) =
      (site.map view).logging [] :=
    rfl
  rw [hstart] at hlog
  rw [log, log, hlog]
  rfl

end Work

namespace Batch

variable (bench : Bench σ) (request : BatchRequest)

def runEach : List String → Work σ (List TargetOutcome)
  | [] => return []
  | name :: rest => do
    let report ← run bench { request with selection := .named name }
    return report.outcomes ++ (← runEach rest)

def declared (action : Action) (project : Project) : List String :=
  match action with
  | .build => project.contracts.map fun name => .ofList (name.toList.filter (· ≠ '_'))
  | .test => project.contracts
  | .run => []
  | .deployFunctions => project.registry.names

variable {bench : Bench σ} {request : BatchRequest}

section Resolution

variable {project : Project} {options : BatchOptions}

lemma exists_jobs_all (project : Project) (options : BatchOptions) {action : Action}
    (haction : action ≠ .run) :
    ∃ jobs, BatchRequest.jobs ⟨action, .all, options⟩ project = .ok jobs ∧
      jobs.map Job.name = declared action project ∧
      ∀ job ∈ jobs, BatchRequest.jobs ⟨action, .named job.name, options⟩ project = .ok [job] := by
  cases action with
  | build =>
    refine ⟨_, rfl, by rw [List.map_map]; rfl, fun job hjob => ?_⟩
    obtain ⟨name, _, rfl⟩ := List.mem_map.mp hjob
    rfl
  | test =>
    refine ⟨_, rfl, by rw [List.map_map]; exact List.map_id _, fun job hjob => ?_⟩
    obtain ⟨name, _, rfl⟩ := List.mem_map.mp hjob
    rfl
  | run => exact absurd rfl haction
  | deployFunctions =>
    refine ⟨_, rfl, by rw [List.map_map]; rfl, fun job hjob => ?_⟩
    obtain ⟨target, htarget, rfl⟩ := List.mem_map.mp hjob
    have hget : project.registry.get target.name = .ok target :=
      Registry.get_eq_ok_iff.mpr ⟨htarget, rfl⟩
    exact bind_eq_ok.mpr ⟨target, hget, rfl⟩

lemma names_of_jobs_named {action : Action} {name : String} {jobs : List Job}
    (h : BatchRequest.jobs ⟨action, .named name, options⟩ project = .ok jobs) :
    jobs.map Job.name = [name] := by
  cases action with
  | build | test | run =>
    cases h
    rfl
  | deployFunctions =>
    obtain ⟨target, hget, hreturn⟩ := bind_eq_ok.mp h
    cases hreturn
    rw [List.map_singleton, Job.name, (Registry.get_eq_ok_iff.mp hget).2]

end Resolution

lemma maps_runEach {view : σ → τ} {tools : Toolbox τ} (h : bench.tools.Maps view tools)
    (request : BatchRequest) (names : List String) :
    (runEach bench request names).Maps view (runEach (bench.withTools tools) request names) := by
  induction names with
  | nil => exact Work.maps_pure []
  | cons name rest ih =>
    exact (maps_run h _).bind fun report => ih.bind fun outcomes =>
      Work.maps_pure (report.outcomes ++ outcomes)

lemma run_of_jobs {jobs : List Job} (h : request.jobs bench.project = .ok jobs) :
    run bench request = (do
      return ⟨request.action, ← runJobs bench request 0 jobs.length jobs⟩) := by
  rw [run, h]
  rfl

lemma notify_targetStarted (h : bench.IgnoresCounts) (target : String) (index total : ℕ) :
    bench.notify (.targetStarted target index total) =
      bench.notify (.targetStarted target 0 1) := by
  funext site
  rw [Bench.notify, Bench.notify, h (.targetStarted target index total),
    h (.targetStarted target 0 1)]
  rfl

lemma runJobs_eq_runEach (h : bench.IgnoresCounts) (index total : ℕ) {jobs : List Job}
    (hjobs : ∀ job ∈ jobs,
      BatchRequest.jobs { request with selection := .named job.name } bench.project = .ok [job]) :
    runJobs bench request index total jobs = runEach bench request (jobs.map Job.name) := by
  induction jobs generalizing index with
  | nil => rfl
  | cons job rest ih =>
    have hrest := ih (index + 1) fun other hmem => hjobs other (List.mem_cons_of_mem _ hmem)
    -- Of the request a job sees only the action and the options.
    have hsame : runJob bench { request with selection := .named job.name } job =
        runJob bench request job :=
      rfl
    rw [List.map_cons, runEach, run_of_jobs (hjobs job List.mem_cons_self), ← hrest]
    simp only [runJobs, List.length_singleton, bind_assoc, pure_bind, hsame,
      notify_targetStarted h job.name index total, List.singleton_append]

lemma target_of_runJob {job : Job} {site final : Site σ} {o : TargetOutcome}
    (h : runJob bench request job site = (.ok o, final)) : o.target = job.name := by
  rw [runJob_eq] at h
  obtain ⟨guard, prepared, _, h⟩ := Work.bind_eq_ok.mp h
  obtain ⟨attempted, after, hattempt, h⟩ := Work.bind_eq_ok.mp h
  obtain ⟨_, _, _, hreturn⟩ := Work.bind_eq_ok.mp h
  cases hattempt
  cases hreturn
  exact target_outcome _ _

lemma targets_of_runJobs {index total : ℕ} {jobs : List Job} {site final : Site σ}
    {outcomes : List TargetOutcome}
    (h : runJobs bench request index total jobs site = (.ok outcomes, final)) :
    outcomes.map (·.target) = jobs.map Job.name := by
  induction jobs generalizing index site outcomes with
  | nil =>
    cases h
    rfl
  | cons job rest ih =>
    obtain ⟨_, started, _, h⟩ := Work.bind_eq_ok.mp h
    obtain ⟨o, done, hjob, h⟩ := Work.bind_eq_ok.mp h
    obtain ⟨_, told, _, h⟩ := Work.bind_eq_ok.mp h
    obtain ⟨others, _, hrest, hreturn⟩ := Work.bind_eq_ok.mp h
    cases hreturn
    rw [List.map_cons, List.map_cons, target_of_runJob hjob, ih hrest]

lemma targets_of_run {site : Site σ} {report : BatchReport}
    (h : (run bench request site).1 = .ok report) :
    ∃ jobs, request.jobs bench.project = .ok jobs ∧
      report.outcomes.map (·.target) = jobs.map Job.name := by
  cases hjobs : request.jobs bench.project with
  | error e =>
    rw [run_of_error hjobs] at h
    cases h
  | ok jobs =>
    have hrun : run bench request site = (.ok report, (run bench request site).2) := Prod.ext h rfl
    rw [run_of_jobs hjobs] at hrun
    obtain ⟨outcomes, _, houtcomes, hreturn⟩ := Work.bind_eq_ok.mp hrun
    cases hreturn
    exact ⟨jobs, rfl, targets_of_runJobs houtcomes⟩

lemma run_all_eq (h : bench.IgnoresCounts) {action : Action} (haction : action ≠ .run)
    (options : BatchOptions) :
    run bench ⟨action, .all, options⟩ = (do
      return ⟨action, ← runEach bench ⟨action, .all, options⟩ (declared action bench.project)⟩) := by
  obtain ⟨jobs, hjobs, hnames, hnamed⟩ := exists_jobs_all bench.project options haction
  rw [run_of_jobs hjobs, runJobs_eq_runEach h 0 jobs.length hnamed, hnames]

/-- The results, the files and what the tools find outside are the same, and so is the log, but for
what was told of how far the batch is. After a run that returned comes the next one, whatever became
of its target. -/
theorem run_all_one_by_one (bench : Bench σ) {view : σ → τ} {tools : Toolbox τ}
    (hview : bench.HidesCounts view tools) {action : Action} (haction : action ≠ .run)
    (options : BatchOptions) (site : Site σ) :
    let request : BatchRequest := ⟨action, .all, options⟩
    let names := declared action bench.project
    let all : Except Error BatchReport × Site σ := run bench request site
    let each : Except Error (List TargetOutcome) × Site σ := runEach bench request names site
    all.1 = each.1.map (⟨action, ·⟩) ∧ all.2.disk = each.2.disk ∧
      view all.2.outside = view each.2.outside ∧
      ((run bench.logged request).log site).map Entry.uncounted =
        ((runEach bench.logged request names).log site).map Entry.uncounted ∧
      (∀ report, all.1 = .ok report → report.outcomes.map (·.target) = names) ∧
      ∀ name report, (run bench ⟨action, .named name, options⟩ site).1 = .ok report →
        report.outcomes.map (·.target) = [name] := by
  intro request names all each
  have hall : run (bench.withTools tools) request (site.map view) = (all.1, all.2.map view) :=
    maps_run hview.maps request site
  have heach : runEach (bench.withTools tools) request names (site.map view) =
      (each.1, each.2.map view) :=
    maps_runEach hview.maps request names site
  have hsame : (all.1, all.2.map view) = (each.1.map (⟨action, ·⟩), each.2.map view) := by
    rw [← hall, run_all_eq hview.ignores haction options]
    cases hresult : each.1 with
    | error e => exact Work.bind_of_error (hresult ▸ heach) _
    | ok outcomes => exact Work.bind_of_ok (hresult ▸ heach) _
  obtain ⟨hresult, hsite⟩ := Prod.mk.inj hsame
  refine ⟨hresult, congrArg (·.disk) hsite, congrArg (·.outside) hsite, ?_, ?_, ?_⟩
  · have hall := Work.log_uncounted (maps_run hview.maps_logged request) site
    have heach := Work.log_uncounted (maps_runEach hview.maps_logged request names) site
    have heq := run_all_eq (Bench.ignoresCounts_uncounted (bench.withTools tools).logged) haction
      options
    rw [hall, heach]
    exact (congrArg (Work.log · (site.map view)) heq).trans (Work.log_bind_pure _ _ _)
  · intro report hreport
    obtain ⟨jobs, hjobs, htargets⟩ := targets_of_run hreport
    obtain ⟨every, hall, hnames, _⟩ := exists_jobs_all bench.project options haction
    cases hjobs.symm.trans hall
    rw [htargets, hnames]
  · intro name report hreport
    obtain ⟨jobs, hjobs, htargets⟩ := targets_of_run hreport
    rw [htargets, names_of_jobs_named hjobs]

def faltering : Bench (ℕ × List Event) where
  project :=
    { paths := {}, tools := {}, probe := {}, contracts := ["Nft_Sale", "Offer"]
      registry := .empty
      profiles :=
        { mainnet := [], testnet := [], test := []
          aggregator := "", overrideToken := "", overrideValue := "" } }
  environment := []
  paths := { constants := ⟨"constants.tolk"⟩ }
  tools :=
    { run := fun _ _ _ ⟨disk, calls, heard⟩ =>
        (.ok { status := if calls = 0 then 2 else 0 }, ⟨disk, calls + 1, heard⟩)
      sandbox := fun _ _ _ site => (.ok "", site)
      notify := fun event _ ⟨calls, heard⟩ => (calls, heard ++ [event]) }

def unheard : Toolbox ℕ where
  run _ _ _ := fun ⟨disk, calls⟩ =>
    (.ok { status := if calls = 0 then 2 else 0 }, ⟨disk, calls + 1⟩)
  sandbox _ _ _ site := (.ok "", site)
  notify _ _ calls := calls

def furnished : Site (ℕ × List Event) :=
  ⟨(({} : Disk).writeText ⟨"constants.tolk"⟩ "").2, 0, []⟩

theorem run_all_one_by_one_faltering :
    faltering.HidesCounts Prod.fst unheard ∧ Action.build ≠ .run ∧
    (let request : BatchRequest := ⟨.build, .all, {}⟩
    let names := declared .build faltering.project
    let all : Except Error BatchReport × Site (ℕ × List Event) := run faltering request furnished
    let each : Except Error (List TargetOutcome) × Site (ℕ × List Event) :=
      runEach faltering request names furnished
    (all.1.map fun report => report.outcomes.map (·.status)).toOption = some [2, 0] ∧
      all.1 = each.1.map (⟨.build, ·⟩) ∧ all.2.disk = each.2.disk ∧
      all.2.outside.1 = each.2.outside.1 ∧
      ((run faltering.logged request).log furnished).map Entry.uncounted =
        ((runEach faltering.logged request names).log furnished).map Entry.uncounted ∧
      (∀ report, all.1 = .ok report → report.outcomes.map (·.target) = names) ∧
      ∀ name report, (run faltering ⟨.build, .named name, {}⟩ furnished).1 = .ok report →
        report.outcomes.map (·.target) = [name]) := by
  have hview : faltering.HidesCounts Prod.fst unheard :=
    ⟨⟨fun _ _ _ _ => rfl, fun _ _ _ _ => rfl, fun _ _ _ => rfl⟩, fun _ => rfl⟩
  have haction : Action.build ≠ .run := by decide
  exact ⟨hview, haction, by decide +kernel, run_all_one_by_one faltering hview haction {} furnished⟩

end Batch

end DeployForge
