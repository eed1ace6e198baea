import DeployForge.Proofs.Pipeline.Protocol

/-!
Frames. When each action of a target on the disk is within some kind of change, then so is all that
a run does between the calls of its tools.
-/

namespace DeployForge

variable {σ α β : Type} {P Q : Disk → Disk → Prop} {d m d' : Disk}

namespace Log

variable {early late log : Log}

instance decidableBetween [∀ d d', Decidable (P d d')] :
    ∀ (d : Disk) (log : Log) (d' : Disk), Decidable (Log.Between P d log d')
  | d, [], d' => inferInstanceAs (Decidable (P d d'))
  | d, entry :: rest, d' =>
    have := decidableBetween entry.after rest d'
    inferInstanceAs (Decidable (P d entry.before ∧ Log.Between P entry.after rest d'))

structure IsFrame (P : Disk → Disk → Prop) : Prop where
  refl : ∀ d, P d d
  trans : ∀ {d m d'}, P d m → P m d' → P d d'

lemma Between.mono (h : log.Between P d d') (hPQ : ∀ d d', P d d' → Q d d') :
    log.Between Q d d' := by
  induction log generalizing d with
  | nil => exact hPQ _ _ h
  | cons entry log ih => exact ⟨hPQ _ _ h.1, ih h.2⟩

lemma Between.append (hP : IsFrame P) (hearly : early.Between P d m)
    (hlate : late.Between P m d') : (early ++ late).Between P d d' := by
  induction early generalizing d with
  | nil =>
    cases late with
    | nil => exact hP.trans hearly hlate
    | cons entry late => exact ⟨hP.trans hearly hlate.1, hlate.2⟩
  | cons entry early ih => exact ⟨hearly.1, ih hearly.2⟩

end Log

namespace Work

variable {holds : Except Error α → Prop} {w : Work σ α} {w' : Work (σ × Log) α}

/-- Whenever `holds` is true of the result, all that the work itself does to the disk, between the
entries of its log, is within `P`. -/
structure Within (P : Disk → Disk → Prop) (holds : Except Error α → Prop) (w : Work σ α)
    (w' : Work (σ × Log) α) : Prop where
  logs : w.Logs w'
  between : ∀ site, holds (w site).1 → (w'.log site).Between P site.disk (w site).2.disk

abbrev always : Except Error α → Prop := fun _ => True

lemma within_onDisk {action : Disk → Except Error α × Disk}
    (h : ∀ d, holds (action d).1 → P d (action d).2) :
    Within P holds (onDisk action : Work σ α) (onDisk action) where
  logs := logs_onDisk action
  between site hresult := h site.disk hresult

variable (hP : Log.IsFrame P)

include hP

lemma within_pure (a : α) : Within P holds (pure a : Work σ α) (pure a) where
  logs := logs_pure a
  between site _ := hP.refl site.disk

lemma within_readDisk (action : Disk → Except Error α) :
    Within P holds (readDisk action : Work σ α) (readDisk action) where
  logs := logs_readDisk action
  between site _ := hP.refl site.disk

lemma Within.bind {holds : Except Error β → Prop} {f : α → Work σ β} {f' : α → Work (σ × Log) β}
    (hw : w.Within P always w') (hf : ∀ a, (f a).Within P holds (f' a)) :
    (w >>= f).Within P holds (w' >>= f') where
  logs := hw.logs.bind fun a => (hf a).logs
  between site hresult := by
    have hfirst := hw.between site trivial
    rcases h : w site with ⟨e | a, after⟩
    · rw [h] at hfirst
      rw [bind_of_error h, log_bind_error hw.logs h]
      exact hfirst
    · rw [h] at hfirst
      rw [bind_of_ok h] at hresult ⊢
      rw [log_bind_ok hw.logs (hf a).logs h]
      exact hfirst.append hP ((hf a).between after hresult)

end Work

namespace Bench

variable (bench : Bench σ) (hP : Log.IsFrame P)

include hP

lemma within_runChecked {holds : Except Error ToolOutput → Prop} (command : ToolCommand)
    (args : List String) (mode : OutputMode) :
    (bench.runChecked command args mode).Within P holds
      (bench.logged.runChecked command args mode) where
  logs := bench.logs_runChecked command args mode
  between site _ := by
    obtain ⟨call, hbefore, _, _, _, _, hafter, hlog, _, _⟩ :=
      bench.runChecked_call command args mode site
    rw [hlog, hafter, ← hbefore]
    exact ⟨hP.refl _, hP.refl _⟩

end Bench

namespace Pipeline

variable {bench : Bench σ} {target : BuildTarget} (hP : Log.IsFrame P)

include hP

lemma within_compile {output : Path} (hremove : ∀ d, P d (removeStale output d).2) :
    (compile bench output).Within P Work.always (compile bench.logged output) :=
  Work.Within.bind hP (Work.within_onDisk fun d _ => hremove d) fun _ =>
    Work.Within.bind hP (bench.within_runChecked hP _ _ _) fun _ => Work.within_pure hP ()

lemma within_deploy : (deploy bench).Within P Work.always (deploy bench.logged) where
  logs := logs_deploy bench
  between site _ := by
    have hstart := (logs_deploy bench).start site
    rcases deploy_cases hstart with
      ⟨_, _, _, hsite⟩ | ⟨call, _, hbefore, _, _, hafter, hlog, _⟩
    · have hnone : (deploy bench.logged).log site = [] := congrArg (·.outside.2) hsite
      have hsame : (deploy bench site).2.disk = site.disk := congrArg (·.disk) hsite
      rw [hnone, hsame]
      exact hP.refl _
    · have hone : (deploy bench.logged).log site = [.sandbox call] := hlog
      have hleft : (deploy bench site).2.disk = call.after := hafter
      have hfound : call.before = site.disk := hbefore
      rw [hone, hleft, ← hfound]
      exact ⟨hP.refl _, hP.refl _⟩

lemma within_atStage {s : Stage} {holds : Except Error α → Prop} {w : Work σ α}
    {w' : Work (σ × Log) α} (hw : w.Within P (fun r => holds (r.mapError (.stage target.name s))) w') :
    (atStage bench target.name s w).Within P holds (atStage bench.logged target.name s w') where
  logs := logs_atStage hw.logs
  between site hresult := by
    let started : Site σ :=
      { site with outside := bench.tools.notify (.stageStarted target.name s) site.disk site.outside }
    have hstart : bench.notify (.stageStarted target.name s) site = (.ok (), started) := rfl
    have hbetween := hw.between started
    rcases h : w started with ⟨cause | a, after⟩
    · obtain ⟨heq, hlog⟩ := atStage_of_error hw.logs hstart h
      rw [heq] at hresult ⊢
      rw [h] at hbetween
      rw [hlog]
      exact ⟨hP.refl _, hbetween hresult⟩
    · let completed : Site σ :=
        { after with
          outside := bench.tools.notify (.stageCompleted target.name s) after.disk after.outside }
      have hend : bench.notify (.stageCompleted target.name s) after = (.ok (), completed) := rfl
      obtain ⟨heq, hlog⟩ := atStage_of_ok hw.logs hstart h hend
      rw [heq] at hresult ⊢
      rw [h] at hbetween
      rw [hlog]
      exact .told ⟨hP.refl _, hbetween hresult⟩ (hP.refl _)

lemma within_run {holds : Except Error Path → Prop}
    (hwrite : ∀ source d, P d ((probe bench).write source d).2)
    (hremove : ∀ p ∈ [bench.paths.listing, bench.paths.compiled], ∀ d, P d (removeStale p d).2)
    (hpersist : ∀ payload d,
      holds ((persist bench target.name payload d).1.mapError (.stage target.name .persisted)) →
        P d (persist bench target.name payload d).2) :
    (run bench target).Within P holds (run bench.logged target) :=
  (within_atStage hP (Work.within_onDisk fun d _ => hwrite _ d)).bind hP fun _ =>
    (within_atStage hP (within_compile hP (hremove _ (by simp)))).bind hP fun _ =>
    (within_atStage hP (Work.within_readDisk hP _)).bind hP fun _ =>
    (within_atStage hP (Work.within_onDisk fun d _ => hwrite _ d)).bind hP fun _ =>
    (within_atStage hP (within_compile hP (hremove _ (by simp)))).bind hP fun _ =>
    (within_atStage hP (within_deploy hP)).bind hP fun payload =>
    within_atStage hP (Work.within_onDisk (hpersist payload))

end Pipeline

end DeployForge
