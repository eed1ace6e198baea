import DeployForge.Proofs.Bench.View
import DeployForge.Proofs.Disk.ReadBack
import DeployForge.Proofs.Text.Hex

namespace DeployForge

variable {σ α : Type}

def Site.calls (site : Site (σ × Log)) : Log := site.outside.2.calls

namespace Pipeline

variable {bench : Bench σ} {target : String} {stage : Stage} {site final : Site (σ × Log)}

lemma calls_notify (event : Event) (site : Site (σ × Log)) :
    ∃ after, bench.logged.notify event site = (.ok (), after) ∧ after.disk = site.disk ∧
      after.calls = site.calls := by
  refine ⟨_, rfl, rfl, ?_⟩
  simp [Site.calls, Bench.logged, Log.calls, Entry.isCall]

lemma calls_of_tool {call : ToolCall} (h : final.outside.2 = site.outside.2 ++ [.tool call]) :
    final.calls = site.calls ++ [.tool call] := by
  rw [Site.calls, h, Log.calls, List.filter_append]
  rfl

lemma calls_of_sandbox {call : SandboxCall}
    (h : final.outside.2 = site.outside.2 ++ [.sandbox call]) :
    final.calls = site.calls ++ [.sandbox call] := by
  rw [Site.calls, h, Log.calls, List.filter_append]
  rfl

lemma atStage_eq_ok {w : Work (σ × Log) α} {a : α}
    (h : atStage bench.logged target stage w site = (.ok a, final)) :
    ∃ started after, started.disk = site.disk ∧ started.calls = site.calls ∧
      w started = (.ok a, after) ∧ final.disk = after.disk ∧ final.calls = after.calls := by
  obtain ⟨started, hstarted, hdisk, hcalls⟩ := calls_notify (.stageStarted target stage) site
  rw [atStage, Work.bind_of_ok hstarted] at h
  obtain ⟨b, after, hw, h⟩ := Work.bind_eq_ok.mp h
  obtain ⟨completed, hcompleted, hdisk', hcalls'⟩ :=
    calls_notify (.stageCompleted target stage) after
  rw [Work.bind_of_ok hcompleted] at h
  cases h
  obtain ⟨hresult, rfl⟩ := Prod.mk.inj hw
  exact ⟨started, _, hdisk, hcalls, Prod.ext (mapError_eq_ok.mp hresult) rfl, hdisk', hcalls'⟩

lemma atStage_eq_error {w : Work (σ × Log) α} {e : Error}
    (h : atStage bench.logged target stage w site = (.error e, final)) :
    ∃ started cause, started.disk = site.disk ∧ started.calls = site.calls ∧
      w started = (.error cause, final) ∧ e = .stage target stage cause := by
  obtain ⟨started, hstarted, hdisk, hcalls⟩ := calls_notify (.stageStarted target stage) site
  rw [atStage, Work.bind_of_ok hstarted, Work.bind_eq] at h
  rcases h with ⟨e', hw, he⟩ | ⟨b, after, _, h⟩
  · cases he
    refine ⟨started, ?_⟩
    rw [Work.adapt_apply] at hw
    rcases hresult : w started with ⟨cause | a, after⟩
    · rw [hresult] at hw
      cases hw
      exact ⟨cause, hdisk, hcalls, rfl, rfl⟩
    · rw [hresult] at hw
      cases hw
  · obtain ⟨completed, hcompleted, _, _⟩ := calls_notify (.stageCompleted target stage) after
    rw [Work.bind_of_ok hcompleted] at h
    cases h

section Removal

variable {path : Path} {d d' : Disk}

/-- It is a removal that does not fail for want of something to remove. -/
lemma exists_of_removeStale {result : Except Error Unit}
    (h : removeStale path d = (result, d')) :
    ∃ removed, d.remove path = (removed, d') ∧
      (result = .ok () → removed = .ok () ∨ removed = .error (.os .noEntry)) := by
  rw [removeStale] at h
  rcases hr : d.remove path with ⟨e | _, after⟩
  · simp only [hr] at h
    obtain ⟨rfl, rfl⟩ := Prod.mk.inj h
    refine ⟨_, rfl, fun hok => ?_⟩
    split at hok
    · next he => exact .inr (congrArg _ he)
    · cases hok
  · simp only [hr] at h
    obtain ⟨_, rfl⟩ := Prod.mk.inj h
    exact ⟨_, rfl, fun _ => .inl rfl⟩

lemma changesAt_of_removeStale {result : Except Error Unit}
    (h : removeStale path d = (result, d')) : d.ChangesAt (d.location path) d' := by
  obtain ⟨_, hr, _⟩ := exists_of_removeStale h
  exact Disk.changesAt_of_remove hr

lemma isPresent_of_removeStale (h : removeStale path d = (.ok (), d')) :
    d'.isPresent path = false := by
  obtain ⟨removed, hr, hok⟩ := exists_of_removeStale h
  rcases hok rfl with rfl | rfl
  · exact Disk.isPresent_of_remove hr
  · obtain ⟨rfl, hgone⟩ := Disk.isPresent_of_remove_noEntry hr
    exact hgone

end Removal

lemma extract_eq_ok {function : String} {code : Listing.Extracted} {d : Disk} :
    extract bench function d = .ok code ↔
      ∃ listing, d.readText bench.paths.listing = .ok listing ∧
        Listing.extract listing function = .ok code := by
  simp only [extract, bind_eq_ok, mapError_eq_ok]

lemma ofHex_eq_ok {payload : String} {artifact : Artifact}
    (h : Artifact.ofHex target payload = .ok artifact) :
    artifact.target = target ∧
      Text.Hex.decode (Text.trim payload.toList) = .ok artifact.bytes := by
  rw [Artifact.ofHex] at h
  split at h
  · cases h
  · cases hd : Text.Hex.decode (Text.trim payload.toList) with
    | error e => simp [hd] at h
    | ok bytes =>
      simp only [hd] at h
      cases h
      exact ⟨rfl, rfl⟩

inductive Persists (bench : Bench σ) (target payload : String) (d : Disk) :
    Except Error Path → Disk → Prop
  | refused {e : Error} (hread : Artifact.ofHex target payload = .error e) :
      Persists bench target payload d (.error e) d
  | unmade {bytes : List UInt8} {cause : IoError} {d' : Disk}
      (hread : Artifact.ofHex target payload = .ok ⟨target, bytes⟩)
      (hmake : d.createDirectories (store bench).dir = (.error cause, d')) :
      Persists bench target payload d (.error (.write (store bench).dir cause)) d'
  | unwritten {bytes : List UInt8} {cause : IoError} {m d' : Disk}
      (hread : Artifact.ofHex target payload = .ok ⟨target, bytes⟩)
      (hmake : d.createDirectories (store bench).dir = (.ok (), m))
      (hwrite : m.write ((store bench).path target) bytes.toByteArray = (.error cause, d')) :
      Persists bench target payload d (.error (.write ((store bench).path target) cause)) d'
  | stored {bytes : List UInt8} {m d' : Disk}
      (hread : Artifact.ofHex target payload = .ok ⟨target, bytes⟩)
      (hmake : d.createDirectories (store bench).dir = (.ok (), m))
      (hwrite : m.write ((store bench).path target) bytes.toByteArray = (.ok (), d')) :
      Persists bench target payload d (.ok ((store bench).path target)) d'

lemma persists {payload : String} {result : Except Error Path} {d d' : Disk}
    (h : persist bench target payload d = (result, d')) :
    Persists bench target payload d result d' := by
  rw [persist] at h
  cases hread : Artifact.ofHex target payload with
  | error e =>
    simp only [hread] at h
    obtain ⟨rfl, rfl⟩ := h
    exact .refused hread
  | ok artifact =>
    obtain ⟨name, bytes⟩ := artifact
    obtain rfl : name = target := (ofHex_eq_ok hread).1
    simp only [hread, ArtifactStore.persist] at h
    rcases hmake : d.createDirectories (store bench).dir with ⟨cause | _, m⟩
    · simp only [hmake] at h
      obtain ⟨rfl, rfl⟩ := h
      exact .unmade hread hmake
    · rcases hwrite : m.write ((store bench).path name) bytes.toByteArray with ⟨cause | _, after⟩
      · simp only [hmake, hwrite] at h
        obtain ⟨rfl, rfl⟩ := h
        exact .unwritten hread hmake hwrite
      · simp only [hmake, hwrite] at h
        obtain ⟨rfl, rfl⟩ := h
        exact .stored hread hmake hwrite

lemma persist_eq_ok {payload : String} {path : Path} {d d' : Disk}
    (h : persist bench target payload d = (.ok path, d')) :
    path = (store bench).path target ∧ ∃ bytes : List UInt8,
      d'.read path = .ok bytes.toByteArray ∧
        Text.Hex.encode bytes = (Text.trim payload.toList).map Char.toLower := by
  cases persists h with
  | @stored bytes _ _ hread _ hwrite =>
    have hdecode := (ofHex_eq_ok hread).2
    exact ⟨rfl, bytes, Disk.read_of_write hwrite, Text.Hex.encode_of_decode hdecode⟩

structure Builds (bench : Bench σ) (call : ToolCall) : Prop where
  given : bench.Gives call
  command : call.command = bench.project.tools.blueprint
  args : call.args = ["build", bench.project.probe.name]
  mode : call.mode = .capture

lemma compile_cases {output : Path} {result : Except Error Unit}
    (h : compile bench.logged output site = (result, final)) :
    (∃ e, result = .error e ∧ (removeStale output site.disk).2 = final.disk ∧
      final.outside.2 = site.outside.2) ∨
      ∃ call, removeStale output site.disk = (.ok (), call.before) ∧ Builds bench call ∧
        final.disk = call.after ∧ final.outside.2 = site.outside.2 ++ [.tool call] ∧
        (result = .ok () ↔ call.Succeeds) := by
  rcases hr : removeStale output site.disk with ⟨e | _, d⟩
  · left
    have hw : Work.onDisk (removeStale output) site = (.error e, { site with disk := d }) :=
      Work.onDisk_eq.mpr ⟨hr, rfl⟩
    rw [compile, Work.bind_of_error hw] at h
    cases h
    exact ⟨e, rfl, rfl, rfl⟩
  · right
    have hw : Work.onDisk (removeStale output) site = (.ok (), { site with disk := d }) :=
      Work.onDisk_eq.mpr ⟨hr, rfl⟩
    rw [compile, Work.bind_of_ok hw] at h
    obtain ⟨call, outside, checked, hbefore, hcommand, hargs, hmode, hgives, hrun, _, hchecked⟩ :=
      bench.runChecked_logged bench.project.tools.blueprint (compileArguments bench) .capture
        { site with disk := d }
    refine ⟨call, by rw [hbefore], ⟨hgives, hcommand, hargs, hmode⟩, ?_⟩
    cases checked with
    | error e =>
      cases h.symm.trans (Work.bind_of_error hrun _)
      exact ⟨rfl, rfl, by simpa using hchecked⟩
    | ok output =>
      cases h.symm.trans (Work.bind_of_ok hrun _)
      exact ⟨rfl, rfl, by simpa using hchecked⟩

lemma deploy_cases {result : Except Error String}
    (h : deploy bench.logged site = (result, final)) :
    (∃ e, Program.load bench.paths.compiled site.disk = .error e ∧ result = .error e ∧
      final = site) ∨
      ∃ call : SandboxCall, Program.load bench.paths.compiled site.disk = .ok call.program ∧
        call.before = site.disk ∧ call.getter = bench.project.probe.accessor ∧
        call.value = bench.project.probe.deployValue ∧
        final.disk = call.after ∧ final.outside.2 = site.outside.2 ++ [.sandbox call] ∧
        result = call.result := by
  cases hload : Program.load bench.paths.compiled site.disk with
  | error e =>
    left
    have hw : Work.readDisk (Program.load bench.paths.compiled) site = (.error e, site) :=
      Work.readDisk_eq.mpr ⟨hload, rfl⟩
    cases h.symm.trans (Work.bind_of_error hw _)
    exact ⟨e, rfl, rfl, rfl⟩
  | ok program =>
    right
    have hw : Work.readDisk (Program.load bench.paths.compiled) site = (.ok program, site) :=
      Work.readDisk_eq.mpr ⟨hload, rfl⟩
    obtain ⟨call, outside, hbefore, rfl, hgetter, hvalue, hrun⟩ := bench.sandbox_logged
      program bench.project.probe.accessor bench.project.probe.deployValue site
    cases h.symm.trans ((Work.bind_of_ok hw _).trans hrun)
    exact ⟨call, rfl, hbefore, hgetter, hvalue, rfl, rfl, rfl⟩

section Success

variable {final : Site (σ × Log)}

lemma onDisk_stage_ok {action : Disk → Except Error α × Disk} {a : α}
    (h : atStage bench.logged target stage (Work.onDisk action) site = (.ok a, final)) :
    action site.disk = (.ok a, final.disk) ∧ final.calls = site.calls := by
  obtain ⟨started, after, hdisk, hcalls, hw, hdisk', hcalls'⟩ := atStage_eq_ok h
  obtain ⟨haction, houtside⟩ := Work.onDisk_eq.mp hw
  have hafter : after.calls = started.calls := by rw [Site.calls, houtside, Site.calls]
  exact ⟨by rw [hdisk', ← hdisk, haction], by rw [hcalls', hafter, hcalls]⟩

lemma readDisk_stage_ok {action : Disk → Except Error α} {a : α}
    (h : atStage bench.logged target stage (Work.readDisk action) site = (.ok a, final)) :
    action site.disk = .ok a ∧ final.disk = site.disk ∧ final.calls = site.calls := by
  obtain ⟨started, after, hdisk, hcalls, hw, hdisk', hcalls'⟩ := atStage_eq_ok h
  obtain ⟨haction, rfl⟩ := Work.readDisk_eq.mp hw
  exact ⟨by rw [← hdisk, haction], by rw [hdisk', hdisk], by rw [hcalls', hcalls]⟩

lemma compile_stage_ok {output : Path}
    (h : atStage bench.logged target stage (compile bench.logged output) site = (.ok (), final)) :
    ∃ call, removeStale output site.disk = (.ok (), call.before) ∧ Builds bench call ∧
      call.Succeeds ∧ final.disk = call.after ∧ final.calls = site.calls ++ [.tool call] := by
  obtain ⟨started, after, hdisk, hcalls, hw, hdisk', hcalls'⟩ := atStage_eq_ok h
  rcases compile_cases hw with ⟨e, he, _⟩ | ⟨call, hremove, hbuilds, hafter, hlog, hresult⟩
  · cases he
  · exact ⟨call, by rw [← hdisk, hremove], hbuilds, hresult.mp rfl, by rw [hdisk', hafter],
      by rw [hcalls', calls_of_tool hlog, hcalls]⟩

lemma deploy_stage_ok {payload : String}
    (h : atStage bench.logged target stage (deploy bench.logged) site = (.ok payload, final)) :
    ∃ call : SandboxCall, Program.load bench.paths.compiled site.disk = .ok call.program ∧
      call.before = site.disk ∧ call.getter = bench.project.probe.accessor ∧
      call.value = bench.project.probe.deployValue ∧ call.result = .ok payload ∧
      final.disk = call.after ∧ final.calls = site.calls ++ [.sandbox call] := by
  obtain ⟨started, after, hdisk, hcalls, hw, hdisk', hcalls'⟩ := atStage_eq_ok h
  rcases deploy_cases hw with
    ⟨e, _, he, _⟩ | ⟨call, hload, hbefore, hgetter, hvalue, hafter, hlog, hresult⟩
  · cases he
  · exact ⟨call, by rw [← hdisk, hload], by rw [hbefore, hdisk], hgetter, hvalue, hresult.symm,
      by rw [hdisk', hafter], by rw [hcalls', calls_of_sandbox hlog, hcalls]⟩

end Success

section Failure

variable {e : Error}

lemma onDisk_stage_error {action : Disk → Except Error α × Disk}
    (h : atStage bench.logged target stage (Work.onDisk action) site = (.error e, final)) :
    final.calls = site.calls := by
  obtain ⟨started, cause, _, hcalls, hw, _⟩ := atStage_eq_error h
  obtain ⟨_, houtside⟩ := Work.onDisk_eq.mp hw
  rw [← hcalls, Site.calls, houtside, Site.calls]

lemma onDisk_stage_calls {action : Disk → Except Error α × Disk} {result : Except Error α}
    (h : atStage bench.logged target stage (Work.onDisk action) site = (result, final)) :
    final.calls = site.calls := by
  cases result with
  | error e => exact onDisk_stage_error h
  | ok a => exact (onDisk_stage_ok h).2

lemma readDisk_stage_error {action : Disk → Except Error α}
    (h : atStage bench.logged target stage (Work.readDisk action) site = (.error e, final)) :
    ∃ cause, action site.disk = .error cause ∧ e = .stage target stage cause ∧
      final.calls = site.calls := by
  obtain ⟨started, cause, hdisk, hcalls, hw, he⟩ := atStage_eq_error h
  obtain ⟨haction, rfl⟩ := Work.readDisk_eq.mp hw
  exact ⟨cause, by rw [← hdisk, haction], he, hcalls⟩

lemma compile_stage_error {output : Path}
    (h : atStage bench.logged target stage (compile bench.logged output) site = (.error e, final)) :
    final.calls = site.calls ∨
      ∃ call, removeStale output site.disk = (.ok (), call.before) ∧ ¬ call.Succeeds ∧
        final.calls = site.calls ++ [.tool call] := by
  obtain ⟨started, cause, hdisk, hcalls, hw, _⟩ := atStage_eq_error h
  rcases compile_cases hw with ⟨_, _, _, hnone⟩ | ⟨call, hremove, _, _, hlog, hresult⟩
  · exact .inl (by rw [Site.calls, hnone, ← hcalls, Site.calls])
  · refine .inr ⟨call, by rw [← hdisk, hremove], fun hsucceeds => ?_,
      by rw [calls_of_tool hlog, hcalls]⟩
    cases hresult.mpr hsucceeds

lemma deploy_stage_error
    (h : atStage bench.logged target stage (deploy bench.logged) site = (.error e, final)) :
    (∃ cause, Program.load bench.paths.compiled site.disk = .error cause ∧
      e = .stage target stage cause ∧ final.calls = site.calls) ∨
      ∃ call : SandboxCall, Program.load bench.paths.compiled site.disk = .ok call.program ∧
        final.calls = site.calls ++ [.sandbox call] := by
  obtain ⟨started, cause, hdisk, hcalls, hw, he⟩ := atStage_eq_error h
  rcases deploy_cases hw with ⟨_, hload, hcause, rfl⟩ | ⟨call, hload, _, _, _, _, hlog, _⟩
  · cases hcause
    exact .inl ⟨_, by rw [← hdisk, hload], he, hcalls⟩
  · exact .inr ⟨call, by rw [← hdisk, hload], by rw [calls_of_sandbox hlog, hcalls]⟩

end Failure

end Pipeline

end DeployForge
