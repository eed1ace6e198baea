import DeployForge.Proofs.Pipeline.Stages

/-!
The stages of a target as its observer is told of them. Between two entries of the log only the
stage that is going on changes the disk, and only where it may.
-/

namespace DeployForge

namespace Entry

def before : Entry → Disk
  | told _ seen => seen
  | tool call => call.before
  | sandbox call => call.before

def after : Entry → Disk
  | told _ seen => seen
  | tool call => call.after
  | sandbox call => call.after

end Entry

/-- All that the program itself does to the disk, between the entries of a log, is within `P`. -/
def Log.Between (P : Disk → Disk → Prop) (d : Disk) (log : Log) (d' : Disk) : Prop :=
  match log with
  | [] => P d d'
  | entry :: rest => P d entry.before ∧ Log.Between P entry.after rest d'

lemma Log.Between.told {P : Disk → Disk → Prop} {d seen d' : Disk} {early late : Log}
    {event : Event} (hearly : early.Between P d seen) (hlate : late.Between P seen d') :
    Log.Between P d (early ++ .told event seen :: late) d' := by
  induction early generalizing d with
  | nil => exact ⟨hearly, hlate⟩
  | cons entry rest ih => exact ⟨hearly.1, ih hearly.2⟩

namespace Pipeline

variable {σ α β : Type}

section Grammar

variable (bench : Bench σ) (target : BuildTarget)

def Changes : Stage → Disk → Disk → Prop
  | .pathBound, d, d' | .codeBound, d, d' => d.ChangesAt (d.location bench.paths.probeSource) d'
  | .compiled, d, d' => d.ChangesAt (d.location bench.paths.listing) d'
  | .recompiled, d, d' => d.ChangesAt (d.location bench.paths.compiled) d'
  | .extracted, d, d' | .deployed, d, d' => d' = d
  | .persisted, d, d' => ∃ payload, (persist bench target.name payload d).2 = d'

/-- A stage makes at most one call: the compiler's in two of them, the sandbox's in another. -/
inductive Acts : Stage → Disk → Log → Disk → Prop
  | alone {s d d'} : Changes bench target s d d' → Acts s d [] d'
  | compiles {s d} {call : ToolCall} : s = .compiled ∨ s = .recompiled →
      Changes bench target s d call.before → Builds bench call → Acts s d [.tool call] call.after
  | deploys {call : SandboxCall} : Acts .deployed call.before [.sandbox call] call.after

/-- The log of stages taken in order until one of them fails, if one does. That one was started and
never completed. -/
inductive Stages : List Stage → Option Stage → Disk → Log → Disk → Prop
  | complete {d} : Stages [] none d [] d
  | broken {s rest d own d'} : Acts bench target s d own d' →
      Stages (s :: rest) (some s) d (.told (.stageStarted target.name s) d :: own) d'
  | next {s rest failed d own d' log final} : Acts bench target s d own d' →
      Stages rest failed d' log final →
      Stages (s :: rest) failed d
        (.told (.stageStarted target.name s) d :: own ++
          .told (.stageCompleted target.name s) d' :: log) final

/-- `P` holds up to the completion of a stage, and to the end if that never comes. -/
def Until (stage : Stage) (P : Disk → Log → Disk → Prop) (d : Disk) (log : Log) (d' : Disk) :
    Prop :=
  (∀ seen, .told (.stageCompleted target.name stage) seen ∉ log) ∧ P d log d' ∨
    ∃ early seen late, log = early ++ .told (.stageCompleted target.name stage) seen :: late ∧
      P d early seen

def Scratch (d d' : Disk) : Prop :=
  ∃ p ∈ [bench.paths.probeSource, bench.paths.listing, bench.paths.compiled],
    d.ChangesAt (d.location p) d'

/-- The log of a target that may have failed at a stage. Nothing that comes behind that stage was
done. -/
structure Orderly (failed : Option Stage) (d : Disk) (log : Log) (d' : Disk) : Prop where
  stages : Stages bench target Stage.all failed d log d'
  uncalled : failed = some .pathBound → log.calls = []
  once : ∀ s ∈ [.pathBound, .compiled, .extracted, .codeBound], failed = some s →
    log.calls.length ≤ 1
  undeployed : Until target .recompiled (fun _ log _ => ∀ call, .sandbox call ∉ log) d log d'
  unwritten : Until target .deployed (Log.Between (Scratch bench)) d log d'

end Grammar

section Order

variable {bench : Bench σ} {target : BuildTarget} {s : Stage} {failed : Option Stage}
  {stages before rest : List Stage} {d d' : Disk} {log own : Log}

def callers : List Stage := [.compiled, .recompiled, .deployed]

lemma Acts.calls_eq (h : Acts bench target s d own d') : own.calls = own := by
  cases h <;> rfl

lemma Acts.told_notMem (h : Acts bench target s d own d') (event : Event) (seen : Disk) :
    .told event seen ∉ own := by
  cases h <;> simp

lemma Acts.length_le (h : Acts bench target s d own d') :
    own.length ≤ if s ∈ callers then 1 else 0 := by
  cases h with
  | alone => exact Nat.zero_le _
  | compiles hs => rcases hs with rfl | rfl <;> simp [callers]
  | deploys => simp [callers]

lemma Acts.sandbox_notMem (h : Acts bench target s d own d') (hs : s ≠ .deployed)
    (call : SandboxCall) : .sandbox call ∉ own := by
  cases h with
  | alone => simp
  | compiles => simp
  | deploys => exact absurd rfl hs

lemma scratch_refl (d : Disk) : Scratch bench d d := ⟨_, List.mem_cons_self, .refl _ _⟩

lemma Changes.scratch (h : Changes bench target s d d') (hs : s ≠ .persisted) :
    Scratch bench d d' := by
  cases s with
  | pathBound => exact ⟨bench.paths.probeSource, by simp, h⟩
  | codeBound => exact ⟨bench.paths.probeSource, by simp, h⟩
  | compiled => exact ⟨bench.paths.listing, by simp, h⟩
  | recompiled => exact ⟨bench.paths.compiled, by simp, h⟩
  | extracted =>
    obtain rfl : d' = d := h
    exact scratch_refl d'
  | deployed =>
    obtain rfl : d' = d := h
    exact scratch_refl d'
  | persisted => exact absurd rfl hs

lemma Acts.between (h : Acts bench target s d own d') (hs : s ≠ .persisted) :
    own.Between (Scratch bench) d d' := by
  cases h with
  | alone hchanges => exact hchanges.scratch hs
  | compiles _ hchanges _ => exact ⟨hchanges.scratch hs, scratch_refl _⟩
  | deploys => exact ⟨scratch_refl _, scratch_refl _⟩

lemma Log.calls_append_told (early late : Log) (event : Event) (seen : Disk) :
    Log.calls (early ++ .told event seen :: late) = early.calls ++ late.calls := by
  simp [Log.calls, Entry.isCall]

lemma Stages.length_le (h : Stages bench target stages failed d log d') :
    log.calls.length ≤ stages.countP (· ∈ callers) := by
  induction h with
  | complete => exact Nat.zero_le _
  | @broken s rest d own d' hacts =>
    have hlength := hacts.length_le
    have hcalls : Log.calls (.told (.stageStarted target.name s) d :: own) = own := hacts.calls_eq
    rw [hcalls, List.countP_cons]
    simp only [decide_eq_true_eq]
    omega
  | @next s rest failed d own d' log final hacts _ ih =>
    have hlength := hacts.length_le
    have hcalls : Log.calls (.told (.stageStarted target.name s) d :: own) = own := hacts.calls_eq
    rw [Log.calls_append_told, hcalls, List.length_append, List.countP_cons]
    simp only [decide_eq_true_eq]
    omega

lemma Stages.sandbox_notMem (h : Stages bench target stages failed d log d')
    (hstages : .deployed ∉ stages) (call : SandboxCall) : .sandbox call ∉ log := by
  induction h with
  | complete => exact List.not_mem_nil
  | broken hacts =>
    have hs := List.ne_of_not_mem_cons hstages
    simpa using hacts.sandbox_notMem hs.symm call
  | next hacts _ ih =>
    have hs := List.ne_of_not_mem_cons hstages
    have hown := hacts.sandbox_notMem hs.symm call
    have hlog := ih (List.not_mem_of_not_mem_cons hstages)
    simp [hown, hlog]

lemma Stages.between (h : Stages bench target stages failed d log d')
    (hstages : .persisted ∉ stages) : log.Between (Scratch bench) d d' := by
  induction h with
  | complete => exact scratch_refl _
  | broken hacts =>
    exact ⟨scratch_refl _, hacts.between (List.ne_of_not_mem_cons hstages).symm⟩
  | next hacts _ ih =>
    have hown := hacts.between (List.ne_of_not_mem_cons hstages).symm
    exact .told ⟨scratch_refl _, hown⟩ (ih (List.not_mem_of_not_mem_cons hstages))

lemma Stages.failed_mem (h : Stages bench target stages (some s) d log d') : s ∈ stages := by
  generalize hfailed : some s = failed at h
  induction h with
  | complete => cases hfailed
  | broken =>
    cases hfailed
    exact List.mem_cons_self
  | next _ _ ih => exact List.mem_cons_of_mem _ (ih hfailed)

lemma Stages.split (h : Stages bench target (before ++ s :: rest) failed d log d')
    (hs : s ∉ before) :
    (∀ seen, .told (.stageCompleted target.name s) seen ∉ log) ∧
        (∃ t, failed = some t ∧ Stages bench target (before ++ [s]) (some t) d log d') ∨
      ∃ early seen late, log = early ++ .told (.stageCompleted target.name s) seen :: late ∧
        Stages bench target (before ++ [s]) (some s) d early seen ∧
        Stages bench target rest failed seen late d' := by
  -- What is logged up to the completion of `s` is what would be logged if `s` had failed there.
  induction before generalizing d log with
  | nil =>
    cases h with
    | broken hacts =>
      left
      refine ⟨fun seen => ?_, s, rfl, .broken hacts⟩
      simpa using hacts.told_notMem _ seen
    | next hacts hrest => exact .inr ⟨_, _, _, rfl, .broken hacts, hrest⟩
  | cons first before ih =>
    cases h with
    | broken hacts =>
      left
      refine ⟨fun seen => ?_, first, rfl, .broken hacts⟩
      simpa using hacts.told_notMem _ seen
    | @next _ _ _ _ own d₁ log _ hacts hrest =>
      rcases ih hrest (List.not_mem_of_not_mem_cons hs) with
        ⟨hnever, t, hfailed, hstages⟩ | ⟨early, seen, late, rfl, hstages, hlate⟩
      · left
        refine ⟨fun seen => ?_, t, hfailed, .next hacts hstages⟩
        have hown := hacts.told_notMem (.stageCompleted target.name s) seen
        have hne := List.ne_of_not_mem_cons hs
        simp [hown, hne, hnever seen]
      · right
        refine ⟨.told (.stageStarted target.name first) d :: own ++
          .told (.stageCompleted target.name first) d₁ :: early, seen, late, ?_,
          .next hacts hstages, hlate⟩
        simp

lemma Stages.until {P : Disk → Log → Disk → Prop}
    (h : Stages bench target (before ++ s :: rest) failed d log d') (hs : s ∉ before)
    (hp : ∀ t d log d', Stages bench target (before ++ [s]) (some t) d log d' → P d log d') :
    Until target s P d log d' := by
  rcases h.split hs with
    ⟨hnever, t, _, hstages⟩ | ⟨early, seen, late, hlog, hstages, _⟩
  · exact .inl ⟨hnever, hp _ _ _ _ hstages⟩
  · exact .inr ⟨early, seen, late, hlog, hp _ _ _ _ hstages⟩

lemma Stages.upTo {t : Stage} (h : Stages bench target (before ++ s :: rest) (some t) d log d')
    (hs : s ∉ before) (ht : t ∉ rest) :
    Stages bench target (before ++ [s]) (some t) d log d' := by
  rcases h.split hs with ⟨_, t', hfailed, hstages⟩ | ⟨_, _, _, _, _, hrest⟩
  · cases hfailed
    exact hstages
  · exact absurd hrest.failed_mem ht

lemma Stages.orderly (h : Stages bench target Stage.all failed d log d') :
    Orderly bench target failed d log d' where
  stages := h
  uncalled hfailed := by
    subst hfailed
    have hpath : Stages bench target ([] ++ .pathBound :: Stage.all.tail) (some .pathBound) d log
      d' := h
    have hlength := (hpath.upTo List.not_mem_nil (by decide)).length_le
    exact List.length_eq_zero_iff.mp (Nat.le_zero.mp hlength)
  once s hs hfailed := by
    subst hfailed
    have hcode : Stages bench target ([.pathBound, .compiled, .extracted] ++
      .codeBound :: [.recompiled, .deployed, .persisted]) (some s) d log d' := h
    have hlater : ∀ s ∈ [Stage.pathBound, .compiled, .extracted, .codeBound],
        s ∉ [Stage.recompiled, .deployed, .persisted] := by
      decide
    exact (hcode.upTo (by decide) (hlater s hs)).length_le
  undeployed := by
    have hrecompiled : Stages bench target ([.pathBound, .compiled, .extracted, .codeBound] ++
      .recompiled :: [.deployed, .persisted]) failed d log d' := h
    exact hrecompiled.until (by decide) fun _ _ _ _ hstages =>
      hstages.sandbox_notMem (by decide)
  unwritten := by
    have hdeployed : Stages bench target
      ([.pathBound, .compiled, .extracted, .codeBound, .recompiled] ++
        .deployed :: [.persisted]) failed d log d' := h
    exact hdeployed.until (by decide) fun _ _ _ _ hstages => hstages.between (by decide)

end Order

section Course

variable {bench : Bench σ} {target : BuildTarget} {s : Stage} {rest : List Stage}
  {w : Work σ α} {w' : Work (σ × Log) α} {f : α → Work σ β} {f' : α → Work (σ × Log) β}

inductive StopsAt (name : String) : Option Stage → Except Error α → Prop
  | nowhere {a} : StopsAt name none (.ok a)
  | stage {s cause} : StopsAt name (some s) (.error (.stage name s cause))

structure ActsAs (bench : Bench σ) (target : BuildTarget) (s : Stage) (w : Work σ α)
    (w' : Work (σ × Log) α) : Prop where
  logs : w.Logs w'
  acts : ∀ site, Acts bench target s site.disk (w'.log site) (w site).2.disk

structure Takes (bench : Bench σ) (target : BuildTarget) (stages : List Stage) (w : Work σ α)
    (w' : Work (σ × Log) α) : Prop where
  logs : w.Logs w'
  stages : ∀ site, ∃ failed, Stages bench target stages failed site.disk (w'.log site)
    (w site).2.disk ∧ StopsAt target.name failed (w site).1

lemma takes_pure (a : α) : Takes bench target [] (pure a) (pure a) where
  logs := Work.logs_pure a
  stages _ := ⟨none, .complete, .nowhere⟩

def underway (bench : Bench σ) (name : String) (s : Stage) (w : Work σ α) : Work σ α := do
  let value ← ExceptT.adapt (.stage name s) w
  bench.notify (.stageCompleted name s)
  return value

lemma atStage_eq (w : Work σ α) : atStage bench target.name s w = (do
    bench.notify (.stageStarted target.name s)
    underway bench target.name s w) :=
  rfl

lemma logs_underway (hw : w.Logs w') :
    (underway bench target.name s w).Logs (underway bench.logged target.name s w') :=
  (hw.adapt _).bind fun a => (bench.logs_notify _).bind fun _ => Work.logs_pure a

lemma logs_atStage (hw : w.Logs w') :
    (atStage bench target.name s w).Logs (atStage bench.logged target.name s w') :=
  (bench.logs_notify _).bind fun _ => logs_underway hw

variable {site started after completed : Site σ}

lemma log_atStage (hw : w.Logs w')
    (hstart : bench.notify (.stageStarted target.name s) site = (.ok (), started)) :
    (atStage bench.logged target.name s w').log site =
      .told (.stageStarted target.name s) site.disk ::
        (underway bench.logged target.name s w').log started :=
  Work.log_bind_ok (bench.logs_notify _) (logs_underway hw) hstart

lemma atStage_of_error {cause : Error} (hw : w.Logs w')
    (hstart : bench.notify (.stageStarted target.name s) site = (.ok (), started))
    (h : w started = (.error cause, after)) :
    atStage bench target.name s w site = (.error (.stage target.name s cause), after) ∧
      (atStage bench.logged target.name s w').log site =
        .told (.stageStarted target.name s) site.disk :: w'.log started := by
  have hadapt : ExceptT.adapt (Error.stage target.name s) w started =
      (.error (.stage target.name s cause), after) := by
    rw [Work.adapt_apply, h]
    rfl
  constructor
  · rw [atStage_eq, Work.bind_of_ok hstart, underway, Work.bind_of_error hadapt]
  · rw [log_atStage hw hstart, underway, Work.log_bind_error (hw.adapt _) hadapt, Work.log_adapt]

lemma atStage_of_ok {a : α} (hw : w.Logs w')
    (hstart : bench.notify (.stageStarted target.name s) site = (.ok (), started))
    (h : w started = (.ok a, after))
    (hend : bench.notify (.stageCompleted target.name s) after = (.ok (), completed)) :
    atStage bench target.name s w site = (.ok a, completed) ∧
      (atStage bench.logged target.name s w').log site =
        .told (.stageStarted target.name s) site.disk :: w'.log started ++
          [.told (.stageCompleted target.name s) after.disk] := by
  have hadapt : ExceptT.adapt (Error.stage target.name s) w started = (.ok a, after) := by
    rw [Work.adapt_apply, h]
    rfl
  have hcompletion : (bench.notify (.stageCompleted target.name s) >>= fun _ => pure a).Logs
      (bench.logged.notify (.stageCompleted target.name s) >>= fun _ => pure a) :=
    (bench.logs_notify _).bind fun _ => Work.logs_pure a
  have hlast : (bench.logged.notify (.stageCompleted target.name s) >>= fun _ => pure a).log after =
      [.told (.stageCompleted target.name s) after.disk] :=
    Work.log_bind_ok (bench.logs_notify _) (Work.logs_pure a) hend
  constructor
  · rw [atStage_eq, Work.bind_of_ok hstart, underway, Work.bind_of_ok hadapt, Work.bind_of_ok hend]
    rfl
  · rw [log_atStage hw hstart, underway, Work.log_bind_ok (hw.adapt _) hcompletion hadapt, hlast,
      Work.log_adapt]
    rfl

lemma Takes.stage (hw : ActsAs bench target s w w') (hf : ∀ a, Takes bench target rest (f a) (f' a)) :
    Takes bench target (s :: rest) (atStage bench target.name s w >>= f)
      (atStage bench.logged target.name s w' >>= f') where
  logs := (logs_atStage hw.logs).bind fun a => (hf a).logs
  stages site := by
    -- Being told of a stage changes nothing on the disk, so the stage acts on the disk it was told at.
    let started : Site σ :=
      { site with outside := bench.tools.notify (.stageStarted target.name s) site.disk site.outside }
    have hstart : bench.notify (.stageStarted target.name s) site = (.ok (), started) := rfl
    have hacts : Acts bench target s site.disk (w'.log started) (w started).2.disk := hw.acts started
    rcases h : w started with ⟨cause | a, after⟩
    · obtain ⟨heq, hlog⟩ := atStage_of_error hw.logs hstart h
      rw [Work.bind_of_error heq, Work.log_bind_error (logs_atStage hw.logs) heq, hlog]
      rw [h] at hacts
      exact ⟨some s, .broken hacts, .stage⟩
    · let completed : Site σ :=
        { after with
          outside := bench.tools.notify (.stageCompleted target.name s) after.disk after.outside }
      have hend : bench.notify (.stageCompleted target.name s) after = (.ok (), completed) := rfl
      obtain ⟨heq, hlog⟩ := atStage_of_ok hw.logs hstart h hend
      obtain ⟨failed, hstages, hstops⟩ := (hf a).stages completed
      rw [Work.bind_of_ok heq, Work.log_bind_ok (logs_atStage hw.logs) (hf a).logs heq, hlog,
        List.append_assoc]
      rw [h] at hacts
      exact ⟨failed, .next hacts hstages, hstops⟩

section Kinds

variable {d d' : Disk}

lemma changesAt_probe {source : String} {result : Except Error Unit}
    (h : (probe bench).write source d = (result, d')) :
    d.ChangesAt (d.location bench.paths.probeSource) d' := by
  rw [ProbeModule.write] at h
  rcases hw : d.writeText (probe bench).path source with ⟨e | _, after⟩
  · simp only [hw] at h
    obtain rfl := (Prod.mk.inj h).2
    exact Disk.changesAt_of_write hw
  · simp only [hw] at h
    obtain rfl := (Prod.mk.inj h).2
    exact Disk.changesAt_of_write hw

lemma actsAs_onDisk {action : Disk → Except Error α × Disk}
    (h : ∀ d, Changes bench target s d (action d).2) :
    ActsAs bench target s (Work.onDisk action) (Work.onDisk action) where
  logs := Work.logs_onDisk action
  acts site := .alone (h site.disk)

lemma actsAs_readDisk {action : Disk → Except Error α} (h : ∀ d, Changes bench target s d d) :
    ActsAs bench target s (Work.readDisk action) (Work.readDisk action) where
  logs := Work.logs_readDisk action
  acts site := .alone (h site.disk)

lemma actsAs_compile {output : Path} (hs : s = .compiled ∨ s = .recompiled)
    (houtput : ∀ d d', d.ChangesAt (d.location output) d' → Changes bench target s d d') :
    ActsAs bench target s (compile bench output) (compile bench.logged output) := by
  have hlogs := logs_compile bench output
  refine ⟨hlogs, fun site => ?_⟩
  rcases compile_cases (hlogs.start site) with
    ⟨e, _, hdisk, hlog⟩ | ⟨call, hremove, hbuilds, hafter, hlog, _⟩
  · have hnone : (compile bench.logged output).log site = [] := hlog
    rw [hnone]
    exact .alone (houtput _ _ (changesAt_of_removeStale (Prod.ext rfl hdisk)))
  · have hone : (compile bench.logged output).log site = [.tool call] := hlog
    have hleft : (compile bench output site).2.disk = call.after := hafter
    rw [hone, hleft]
    exact .compiles hs (houtput _ _ (changesAt_of_removeStale hremove)) hbuilds

lemma actsAs_deploy : ActsAs bench target .deployed (deploy bench) (deploy bench.logged) := by
  have hlogs := logs_deploy bench
  refine ⟨hlogs, fun site => ?_⟩
  rcases deploy_cases (hlogs.start site) with
    ⟨e, _, _, hsite⟩ | ⟨call, _, hbefore, _, _, hafter, hlog, _⟩
  · have hnone : (deploy bench.logged).log site = [] := congrArg (·.outside.2) hsite
    have hsame : (deploy bench site).2.disk = site.disk := congrArg (·.disk) hsite
    rw [hnone, hsame]
    exact .alone rfl
  · have hone : (deploy bench.logged).log site = [.sandbox call] := hlog
    have hleft : (deploy bench site).2.disk = call.after := hafter
    have hfound : call.before = site.disk := hbefore
    rw [hone, hleft, ← hfound]
    exact .deploys

end Kinds

lemma takes_run (bench : Bench σ) (target : BuildTarget) :
    Takes bench target Stage.all (run bench target) (run bench.logged target) := by
  have hpersist : ∀ payload, Takes bench target [.persisted]
      (atStage bench target.name .persisted (Work.onDisk (persist bench target.name payload)))
      (atStage bench.logged target.name .persisted
        (Work.onDisk (persist bench.logged target.name payload))) := by
    intro payload
    rw [← bind_pure (atStage bench _ _ _), ← bind_pure (atStage bench.logged _ _ _)]
    exact .stage (actsAs_onDisk fun d => ⟨payload, rfl⟩) takes_pure
  exact .stage (actsAs_onDisk fun d => changesAt_probe rfl) fun _ =>
    .stage (actsAs_compile (.inl rfl) fun _ _ h => h) fun _ =>
    .stage (actsAs_readDisk fun _ => rfl) fun code =>
    .stage (actsAs_onDisk fun d => changesAt_probe rfl) fun _ =>
    .stage (actsAs_compile (.inr rfl) fun _ _ h => h) fun _ =>
    .stage actsAs_deploy hpersist

/-- Whatever the tools do, a target goes through its stages in order, and its failure, if there is
one, is that of the stage it stopped at. -/
theorem orderly_run (bench : Bench σ) (target : BuildTarget) (site : Site σ) :
    ∃ failed, Orderly bench target failed site.disk ((run bench.logged target).log site)
      (run bench target site).2.disk ∧ StopsAt target.name failed (run bench target site).1 := by
  obtain ⟨failed, hstages, hstops⟩ := (takes_run bench target).stages site
  exact ⟨failed, hstages.orderly, hstops⟩

end Course

end Pipeline

end DeployForge
