import DeployForge.Proofs.Batch.Reports

namespace DeployForge.Batch

variable {σ : Type}

section Grammar

variable (bench : Bench σ) (request : BatchRequest)

def Rewrites (d d' : Disk) : Prop := d.ChangesAt (d.location bench.paths.constants) d'

inductive ConstantsFailure : Error → Prop
  | read {cause} : ConstantsFailure (.read bench.paths.constants cause)
  | write {cause} : ConstantsFailure (.write bench.paths.constants cause)
  | restore {cause} : ConstantsFailure (.restore bench.paths.constants cause)

/-- A job with its constants in place. A contract is one call of its tool and has no stages. -/
inductive Works : Job → TargetOutcome → Disk → Log → Disk → Prop
  | contract {name o} {call : ToolCall} : bench.Gives call →
      call.command = bench.project.tools.blueprint → call.args = request.toolArguments name →
      call.mode = .inherit_ → o.target = name → (o.isSuccess ↔ call.Succeeds) →
      Works (.contract name) o call.before [.tool call] call.after
  | deployFunction {target failed o d log d'} : Pipeline.Orderly bench target failed d log d' →
      o.target = target.name → (o.isSuccess ↔ failed = none) → o.stage = failed →
      Works (.deployFunction target) o d log d'

/-- Jobs taking their turns, of `total` in all. The last one is broken off when its constants cannot
be put in, or cannot be taken out again. -/
inductive Turns (total : ℕ) :
    ℕ → List Job → Except Error (List TargetOutcome) → Disk → Log → Disk → Prop
  | none {index d} : Turns total index [] (.ok []) d [] d
  | refused {index job rest e d d'} : ConstantsFailure bench e → Rewrites bench d d' →
      Turns total index (job :: rest) (.error e) d [.told (.targetStarted job.name index total) d] d'
  | lost {index job rest o e d d₁ own d₂ d'} : Rewrites bench d d₁ →
      Works bench request job o d₁ own d₂ → ConstantsFailure bench e → Rewrites bench d₂ d' →
      Turns total index (job :: rest) (.error e) d
        (.told (.targetStarted job.name index total) d :: own) d'
  | next {index job rest o result d d₁ own d₂ d₃ log d'} : Rewrites bench d d₁ →
      Works bench request job o d₁ own d₂ → Rewrites bench d₂ d₃ →
      Turns total (index + 1) rest result d₃ log d' →
      Turns total index (job :: rest) (result.map (o :: ·)) d
        (.told (.targetStarted job.name index total) d :: own ++
          .told (.targetFinished o) d₃ :: log) d'

end Grammar

variable {bench : Bench σ} {request : BatchRequest}

lemma works_contract (name : String) (site : Site σ) :
    Works bench request (.contract name)
      (outcome name (perform bench request (.contract name) site).1) site.disk
      ((perform bench.logged request (.contract name)).log site)
      (perform bench request (.contract name) site).2.disk := by
  obtain ⟨call, hbefore, hcommand, hargs, hmode, hgives, hafter, hlog, _, hsucceeds⟩ :=
    bench.runChecked_call bench.project.tools.blueprint (request.toolArguments name) .inherit_ site
  have hown : (perform bench.logged request (.contract name)).log site = [.tool call] :=
    (Work.log_bind_pure _ _ site).trans hlog
  rw [perform_contract, hown, hafter, ← hbefore]
  refine .contract hgives hcommand hargs hmode (target_outcome _ _) ?_
  rw [isSuccess_outcome, ← hsucceeds]
  simp [map_eq_ok]

lemma works_deployFunction (target : BuildTarget) (site : Site σ) :
    Works bench request (.deployFunction target)
      (outcome target.name (perform bench request (.deployFunction target) site).1) site.disk
      ((perform bench.logged request (.deployFunction target)).log site)
      (perform bench request (.deployFunction target) site).2.disk := by
  obtain ⟨failed, horderly, hstops⟩ := Pipeline.orderly_run bench target site
  have hown : (perform bench.logged request (.deployFunction target)).log site =
      (Pipeline.run bench.logged target).log site :=
    Work.log_bind_pure _ _ site
  rw [perform_deployFunction, hown]
  generalize (Pipeline.run bench target site).1 = result at hstops
  cases hstops with
  | nowhere =>
    refine .deployFunction horderly (target_outcome _ _) ?_ rfl
    simp [isSuccess_outcome, map_eq_ok]
  | stage =>
    refine .deployFunction horderly (target_outcome _ _) ?_ rfl
    simp [isSuccess_outcome, map_eq_ok]

lemma works (bench : Bench σ) (request : BatchRequest) (job : Job) (site : Site σ) :
    Works bench request job (outcome job.name (perform bench request job site).1) site.disk
      ((perform bench.logged request job).log site) (perform bench request job site).2.disk := by
  cases job with
  | contract name => exact works_contract name site
  | deployFunction target => exact works_deployFunction target site

section Changes

variable {job : Job} {site final : Site σ} {own : Log}

lemma rewrites_refl (d : Disk) : Rewrites bench d d := .refl _ _

lemma rewrites_of_writeText {d d' : Disk} {text : String} {result : Except IoError Unit}
    (h : d.writeText bench.paths.constants text = (result, d')) : Rewrites bench d d' :=
  Disk.changesAt_of_write h

lemma Rewrites.trans {d d' d'' : Disk} (h : Rewrites bench d d') (h' : Rewrites bench d' d'') :
    Rewrites bench d d'' := by
  rw [Rewrites, Disk.location, h.place] at h'
  exact Disk.ChangesAt.trans h h'

lemma Handles.turn {o : TargetOutcome} (h : Handles bench request job site (.ok o) final own) :
    ∃ d₁ d₂, Rewrites bench site.disk d₁ ∧ Works bench request job o d₁ own d₂ ∧
      Rewrites bench d₂ final.disk := by
  cases h with
  | @settled original d result after d' _ _ hwrite hperform hback hbecomes =>
    obtain rfl := hbecomes.eq
    have hworks := works bench request job { site with disk := d }
    rw [hperform] at hworks
    exact ⟨d, after.disk, rewrites_of_writeText hwrite, hworks, rewrites_of_writeText hback⟩

lemma Handles.broken {e : Error} (h : Handles bench request job site (.error e) final own) :
    ConstantsFailure bench e ∧ (own = [] ∧ Rewrites bench site.disk final.disk ∨
      ∃ o d₁ d₂, Rewrites bench site.disk d₁ ∧ Works bench request job o d₁ own d₂ ∧
        Rewrites bench d₂ final.disk) := by
  cases h with
  | unread => exact ⟨.read, .inl ⟨rfl, rewrites_refl _⟩⟩
  | unwritten _ hwrite hback =>
    exact ⟨.write, .inl ⟨rfl, (rewrites_of_writeText hwrite).trans (rewrites_of_writeText hback)⟩⟩
  | unrolled _ hwrite hback =>
    exact ⟨.restore, .inl ⟨rfl, (rewrites_of_writeText hwrite).trans (rewrites_of_writeText hback)⟩⟩
  | @unrestored original d result after cause d' _ hwrite hperform hback =>
    have hworks := works bench request job { site with disk := d }
    rw [hperform] at hworks
    exact ⟨.restore, .inr ⟨_, d, after.disk, rewrites_of_writeText hwrite, hworks,
      rewrites_of_writeText hback⟩⟩

end Changes

section Sequence

variable {total index : ℕ} {jobs done : List Job} {site before final : Site σ}
  {outcomes : List TargetOutcome} {log early : Log}

lemma Processes.turns_append {rest : List Job} {result : Except Error (List TargetOutcome)} {late : Log} {d' : Disk}
    (h : Processes bench request total index done site outcomes before early)
    (hrest : Turns bench request total (index + done.length) rest result before.disk late d') :
    Turns bench request total index (done ++ rest) (result.map (outcomes ++ ·)) site.disk
      (early ++ late) d' := by
  induction h with
  | nil =>
    have hid : result.map (([] : List TargetOutcome) ++ ·) = result := by cases result <;> rfl
    rwa [hid]
  | @cons index job done site o after own outcomes before early hjob _ ih =>
    have hindex : index + (job :: done).length = index + 1 + done.length := by
      rw [List.length_cons, Nat.add_right_comm, Nat.add_assoc]
    rw [hindex] at hrest
    obtain ⟨d₁, d₂, hin, hworks, hout⟩ := hjob.turn
    have hmap : result.map (o :: outcomes ++ ·) = (result.map (outcomes ++ ·)).map (o :: ·) := by
      cases result <;> rfl
    rw [hmap, List.append_assoc, List.cons_append, List.cons_append]
    exact .next hin hworks hout (ih hrest)

lemma Processes.turns (h : Processes bench request total index jobs site outcomes final log) :
    Turns bench request total index jobs (.ok outcomes) site.disk log final.disk := by
  have hturns := h.turns_append .none
  simpa [Except.map] using hturns

lemma Handles.turns {job : Job} {e : Error} {own : Log}
    (h : Handles bench request job (told bench (.targetStarted job.name index total) site)
      (.error e) final own) (rest : List Job) :
    Turns bench request total index (job :: rest) (.error e) site.disk
      (.told (.targetStarted job.name index total) site.disk :: own) final.disk := by
  obtain ⟨he, ⟨rfl, hchange⟩ | ⟨o, d₁, d₂, hin, hworks, hout⟩⟩ := h.broken
  · exact .refused he hchange
  · exact .lost hin hworks he hout

end Sequence

/-- Whatever the tools do, a batch is a turn for each of its jobs, in order. -/
theorem run_in_turns (bench : Bench σ) (request : BatchRequest) (site : Site σ) :
    (∃ e, request.jobs bench.project = .error e ∧ run bench request site = (.error e, site) ∧
      (run bench.logged request).log site = []) ∨
    ∃ jobs result, request.jobs bench.project = .ok jobs ∧
      (run bench request site).1 = result.map (⟨request.action, ·⟩) ∧
      Turns bench request jobs.length 0 jobs result site.disk
        ((run bench.logged request).log site) (run bench request site).2.disk := by
  cases hjobs : request.jobs bench.project with
  | error e => exact .inl ⟨e, rfl, run_of_error hjobs site, log_run_of_error hjobs site⟩
  | ok jobs =>
    right
    rw [log_run_of_ok hjobs]
    rcases exists_processes bench request jobs.length 0 jobs site with
      ⟨outcomes, final, log, hall⟩ |
      ⟨done, job, rest, outcomes, before, early, e, final, own, hsplit, hdone, hjob⟩
    · obtain ⟨hruns, hlog⟩ := hall.runJobs_eq
      rw [run_of_ok hjobs hruns, hlog]
      exact ⟨jobs, .ok outcomes, rfl, rfl, hall.turns⟩
    · obtain ⟨hruns, hlog⟩ := hdone.stopped hjob
      rw [← hsplit] at hruns hlog
      rw [run_of_ok hjobs hruns, hlog]
      have hturns := hdone.turns_append (hjob.turns rest)
      rw [← hsplit] at hturns
      exact ⟨jobs, .error e, rfl, rfl, hturns⟩

end DeployForge.Batch
