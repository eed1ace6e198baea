import DeployForge.Pipeline
import DeployForge.Proofs.Bench.Log

/-!
A bench seen with another outside. What work on it does hangs on the tools alone, so tools that
agree under a view of what is outside make all work agree under it. Leaving out the log is such a
view, and so is putting an earlier log in front.
-/

namespace DeployForge

variable {σ τ α β : Type} {view : σ → τ}

def Site.map (view : σ → τ) (site : Site σ) : Site τ := ⟨site.disk, view site.outside⟩

namespace Work

def Maps (view : σ → τ) (w : Work σ α) (w' : Work τ α) : Prop :=
  ∀ site, w' (site.map view) = ((w site).1, (w site).2.map view)

lemma maps_onDisk (action : Disk → Except Error α × Disk) :
    Maps view (onDisk action) (onDisk action) :=
  fun _ => rfl

lemma maps_readDisk (action : Disk → Except Error α) :
    Maps view (readDisk action) (readDisk action) :=
  fun _ => rfl

lemma maps_lift (x : Except Error α) : Maps view (liftM x) (liftM x) := by
  intro site
  rw [lift_apply, lift_apply]

lemma maps_pure (a : α) : Maps view (pure a) (pure a) := fun _ => rfl

lemma Maps.bind {w : Work σ α} {w' : Work τ α} {f : α → Work σ β} {f' : α → Work τ β}
    (hw : w.Maps view w') (hf : ∀ a, (f a).Maps view (f' a)) :
    (w >>= f).Maps view (w' >>= f') := by
  intro site
  rw [bind_apply, bind_apply, hw site]
  rcases w site with ⟨e | a, after⟩
  · rfl
  · exact hf a after

lemma Maps.adapt {w : Work σ α} {w' : Work τ α} (hw : w.Maps view w') (f : Error → Error) :
    Maps view (ExceptT.adapt f w) (ExceptT.adapt f w') := by
  intro site
  rw [adapt_apply, adapt_apply, hw site]

lemma maps_logged {w : Work σ α} {w' : Work τ α} (hw : w.Maps view w') (entry : Call α → Entry)
    {rewrite : Log → Log} (hrewrite : ∀ log call, rewrite (log ++ [entry call]) =
      rewrite log ++ [entry call]) :
    (w.logged entry).Maps (Prod.map view rewrite) (w'.logged entry) := by
  intro site
  have happly := hw ⟨site.disk, site.outside.1⟩
  simp only [Site.map, logged, Prod.map] at happly ⊢
  rw [happly]
  rcases w ⟨site.disk, site.outside.1⟩ with ⟨result, after⟩
  simp only [Site.logging, hrewrite]

end Work

structure Toolbox.Maps (view : σ → τ) (tools : Toolbox σ) (tools' : Toolbox τ) : Prop where
  run : ∀ command args mode,
    (tools.run command args mode).Maps view (tools'.run command args mode)
  sandbox : ∀ program getter value,
    (tools.sandbox program getter value).Maps view (tools'.sandbox program getter value)
  notify : ∀ event disk outside,
    tools'.notify event disk (view outside) = view (tools.notify event disk outside)

namespace Bench

def withTools (bench : Bench σ) (tools : Toolbox τ) : Bench τ where
  project := bench.project
  environment := bench.environment
  paths := bench.paths
  tools := tools

variable (bench : Bench σ)

lemma maps_forgetting : bench.logged.tools.Maps Prod.fst bench.tools where
  run _ _ _ _ := rfl
  sandbox _ _ _ _ := rfl
  notify _ _ _ := rfl

lemma maps_prefixed (early : Log) :
    bench.logged.tools.Maps (Prod.map id (early ++ ·)) bench.logged.tools where
  run command args mode := by
    rw [run_eq_logged]
    exact Work.maps_logged (fun _ => rfl) _ fun _ _ => (List.append_assoc ..).symm
  sandbox program getter value := by
    rw [sandbox_eq_logged]
    exact Work.maps_logged (fun _ => rfl) _ fun _ _ => (List.append_assoc ..).symm
  notify _ _ _ := Prod.ext rfl (List.append_assoc ..)

end Bench

section Pipeline

variable {bench : Bench σ} {tools : Toolbox τ} (h : bench.tools.Maps view tools)

include h

lemma Bench.maps_notify (event : Event) :
    (bench.notify event).Maps view ((bench.withTools tools).notify event) := by
  intro site
  simp only [Bench.notify, Bench.withTools, Site.map, h.notify]

lemma Bench.maps_runChecked (command : ToolCommand) (args : List String) (mode : OutputMode) :
    (bench.runChecked command args mode).Maps view
      ((bench.withTools tools).runChecked command args mode) :=
  (h.run command args mode).bind fun _ => Work.maps_lift _

namespace Pipeline

lemma maps_atStage {w : Work σ α} {w' : Work τ α} (hw : w.Maps view w') (target : String)
    (stage : Stage) :
    (atStage bench target stage w).Maps view (atStage (bench.withTools tools) target stage w') :=
  (Bench.maps_notify h _).bind fun _ => (hw.adapt _).bind fun a =>
    (Bench.maps_notify h _).bind fun _ => Work.maps_pure a

lemma maps_compile (output : Path) :
    (compile bench output).Maps view (compile (bench.withTools tools) output) :=
  (Work.maps_onDisk _).bind fun _ => (Bench.maps_runChecked h _ _ _).bind fun _ => Work.maps_pure ()

lemma maps_deploy : (deploy bench).Maps view (deploy (bench.withTools tools)) :=
  (Work.maps_readDisk _).bind fun program => h.sandbox program _ _

lemma maps_run (target : BuildTarget) :
    (run bench target).Maps view (run (bench.withTools tools) target) :=
  (maps_atStage h (Work.maps_onDisk _) _ _).bind fun _ =>
    (maps_atStage h (maps_compile h _) _ _).bind fun _ =>
    (maps_atStage h (Work.maps_readDisk _) _ _).bind fun _ =>
    (maps_atStage h (Work.maps_onDisk _) _ _).bind fun _ =>
    (maps_atStage h (maps_compile h _) _ _).bind fun _ =>
    (maps_atStage h (maps_deploy h) _ _).bind fun _ =>
    maps_atStage h (Work.maps_onDisk _) _ _

end Pipeline

end Pipeline

namespace Work

def log (w : Work (σ × Log) α) (site : Site σ) : Log := (w (site.logging [])).2.outside.2

/-- The work `w'` does what `w` does, and puts its own log behind what was logged before. -/
def Logs (w : Work σ α) (w' : Work (σ × Log) α) : Prop :=
  ∀ site early, w' (site.logging early) = ((w site).1, (w site).2.logging (early ++ w'.log site))

lemma logs_of_maps {w : Work σ α} {w' : Work (σ × Log) α} (hforget : w'.Maps Prod.fst w)
    (hbehind : ∀ early, w'.Maps (Prod.map id (early ++ ·)) w') : w.Logs w' := by
  intro site early
  have hplain := hforget (site.logging [])
  have hearly := hbehind early (site.logging [])
  have hstart : (site.logging []).map (Prod.map id (early ++ ·)) = site.logging early := by
    simp [Site.map, Site.logging]
  rw [hstart] at hearly
  have hsite : (site.logging []).map Prod.fst = site := rfl
  rw [hsite] at hplain
  rw [hearly, hplain]
  rfl

lemma Logs.start {w : Work σ α} {w' : Work (σ × Log) α} (h : w.Logs w') (site : Site σ) :
    w' (site.logging []) = ((w site).1, (w site).2.logging (w'.log site)) :=
  h site []

lemma logs_onDisk (action : Disk → Except Error α × Disk) :
    (onDisk action : Work σ α).Logs (onDisk action) :=
  logs_of_maps (maps_onDisk action) fun _ => maps_onDisk action

lemma logs_readDisk (action : Disk → Except Error α) :
    (readDisk action : Work σ α).Logs (readDisk action) :=
  logs_of_maps (maps_readDisk action) fun _ => maps_readDisk action

lemma logs_pure (a : α) : (pure a : Work σ α).Logs (pure a) :=
  logs_of_maps (maps_pure a) fun _ => maps_pure a

lemma log_adapt (f : Error → Error) (w : Work (σ × Log) α) (site : Site σ) :
    Work.log (ExceptT.adapt f w) site = w.log site :=
  rfl

lemma log_bind_pure (w : Work (σ × Log) α) (f : α → β) (site : Site σ) :
    (w >>= fun a => pure (f a)).log site = w.log site := by
  rw [log, bind_pure_apply, log]

section Sequence

variable {w : Work σ α} {w' : Work (σ × Log) α} {f : α → Work σ β} {f' : α → Work (σ × Log) β}
  {site after : Site σ}

lemma log_bind_error {e : Error} (hw : w.Logs w') (h : w site = (.error e, after)) :
    (w' >>= f').log site = w'.log site := by
  have hlogged := hw site []
  rw [h] at hlogged
  rw [log, bind_of_error hlogged]
  rfl

lemma log_bind_ok {a : α} {g : Work σ β} (hw : w.Logs w') (hg : g.Logs (f' a))
    (h : w site = (.ok a, after)) :
    (w' >>= f').log site = w'.log site ++ (f' a).log after := by
  have hlogged := hw site []
  rw [h, List.nil_append] at hlogged
  rw [log, bind_of_ok hlogged, hg after (w'.log site)]
  rfl

lemma Logs.adapt (hw : w.Logs w') (change : Error → Error) :
    Logs (ExceptT.adapt change w) (ExceptT.adapt change w') := by
  intro site early
  rw [adapt_apply, adapt_apply, hw site early]
  rfl

lemma Logs.bind (hw : w.Logs w') (hf : ∀ a, (f a).Logs (f' a)) : (w >>= f).Logs (w' >>= f') := by
  intro site early
  have hlogged := hw site early
  rcases h : w site with ⟨e | a, after⟩
  · rw [h] at hlogged
    rw [bind_of_error hlogged, bind_of_error h, log_bind_error hw h]
  · rw [h] at hlogged
    rw [bind_of_ok hlogged, bind_of_ok h, log_bind_ok hw (hf a) h, hf a after, List.append_assoc]

end Sequence

end Work

namespace Bench

variable (bench : Bench σ)

lemma logs_notify (event : Event) : (bench.notify event).Logs (bench.logged.notify event) :=
  Work.logs_of_maps (maps_notify bench.maps_forgetting event)
    fun early => maps_notify (bench.maps_prefixed early) event

lemma logs_runChecked (command : ToolCommand) (args : List String) (mode : OutputMode) :
    (bench.runChecked command args mode).Logs (bench.logged.runChecked command args mode) :=
  Work.logs_of_maps (maps_runChecked bench.maps_forgetting command args mode)
    fun early => maps_runChecked (bench.maps_prefixed early) command args mode

lemma runChecked_call (command : ToolCommand) (args : List String) (mode : OutputMode)
    (site : Site σ) : ∃ call : ToolCall,
      call.before = site.disk ∧ call.command = command ∧ call.args = args ∧ call.mode = mode ∧
      bench.Gives call ∧ (bench.runChecked command args mode site).2.disk = call.after ∧
      (bench.logged.runChecked command args mode).log site = [.tool call] ∧
      (bench.runChecked command args mode site).1 = call.result >>= (·.check command) ∧
      ((∃ output, (bench.runChecked command args mode site).1 = .ok output) ↔ call.Succeeds) := by
  obtain ⟨call, outside, result, hbefore, hcommand, hargs, hmode, hgives, hrun, hchecked,
    hsucceeds⟩ := bench.runChecked_logged command args mode (site.logging [])
  have heq := ((bench.logs_runChecked command args mode).start site).symm.trans hrun
  have hresult : (bench.runChecked command args mode site).1 = result := congrArg Prod.fst heq
  exact ⟨call, hbefore, hcommand, hargs, hmode, hgives, congrArg (·.2.disk) heq,
    congrArg (·.2.outside.2) heq, hresult.trans hchecked, hresult ▸ hsucceeds⟩

end Bench

namespace Pipeline

variable (bench : Bench σ)

lemma logs_compile (output : Path) :
    (compile bench output).Logs (compile bench.logged output) :=
  Work.logs_of_maps (maps_compile bench.maps_forgetting output)
    fun early => maps_compile (bench.maps_prefixed early) output

lemma logs_deploy : (deploy bench).Logs (deploy bench.logged) :=
  Work.logs_of_maps (maps_deploy bench.maps_forgetting)
    fun early => maps_deploy (bench.maps_prefixed early)

lemma logsTo_run (target : BuildTarget) (site : Site σ) (log : Log) :
    ∃ log', run bench.logged target (site.logging log) =
      ((run bench target site).1, (run bench target site).2.logging log') :=
  ⟨_, Work.logs_of_maps (maps_run bench.maps_forgetting target)
    (fun early => maps_run (bench.maps_prefixed early) target) site log⟩

end Pipeline

end DeployForge
