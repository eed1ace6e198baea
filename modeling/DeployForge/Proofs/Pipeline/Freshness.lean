import DeployForge.Proofs.Pipeline.Stages

namespace DeployForge

namespace Disk

variable {d : Disk} {p : Path}

lemma isPresent_of_readText {text : String} (h : d.readText p = .ok text) :
    d.isPresent p = true := by
  obtain ⟨content, hread, _⟩ := readText_eq_ok.mp h
  obtain ⟨runnable, hstatus⟩ := Tree.read_eq_ok.mp hread
  rw [isPresent, hstatus]
  rfl

lemma readText_of_not_isPresent (h : d.isPresent p = false) : ∃ e, d.readText p = .error e := by
  cases ht : d.readText p with
  | error e => exact ⟨e, rfl⟩
  | ok text =>
    rw [isPresent_of_readText ht] at h
    cases h

end Disk

lemma Program.isPresent_of_load {d : Disk} {p : Path} {program : Program}
    (h : Program.load p d = .ok program) : d.isPresent p = true := by
  rw [Program.load] at h
  cases ht : d.readText p with
  | error e => simp [ht] at h
  | ok text => exact Disk.isPresent_of_readText ht

lemma Program.load_of_not_isPresent {d : Disk} {p : Path} (h : d.isPresent p = false) :
    ∃ e, Program.load p d = .error (.read p e) := by
  obtain ⟨e, he⟩ := Disk.readText_of_not_isPresent h
  exact ⟨e, by rw [Program.load, he]⟩

namespace Pipeline

variable {σ : Type} {bench : Bench σ} {paths : PathsConfig} {name : String} {calls : Log}
  {result : Except Error Path}

/-- Each compilation starts without the file it is to write. If that is still missing when it has
succeeded, then it was the last call, and the stage that reads the file fails. -/
structure Fresh (paths : PathsConfig) (name : String) (calls : Log)
    (result : Except Error Path) : Prop where
  listing : ∀ first rest, calls = .tool first :: rest →
    first.before.isPresent paths.listing = false ∧
      (first.Succeeds → first.after.isPresent paths.listing = false →
        rest = [] ∧ ∃ e, result = .error (.stage name .extracted (.read paths.listing e)))
  compiled : ∀ first second rest, calls = .tool first :: .tool second :: rest →
    second.before.isPresent paths.compiled = false ∧
      (second.Succeeds → second.after.isPresent paths.compiled = false →
        rest = [] ∧ ∃ e, result = .error (.stage name .deployed (.read paths.compiled e)))

lemma Fresh.none : Fresh paths name [] result := ⟨nofun, nofun⟩

lemma Fresh.one {call : ToolCall} (hbefore : call.before.isPresent paths.listing = false)
    (hafter : call.Succeeds → call.after.isPresent paths.listing = false →
      ∃ e, result = .error (.stage name .extracted (.read paths.listing e))) :
    Fresh paths name [.tool call] result where
  listing first rest h := by
    cases h
    exact ⟨hbefore, fun hsucceeds habsent => ⟨rfl, hafter hsucceeds habsent⟩⟩
  compiled first second rest h := by cases h

lemma Fresh.more {first second : ToolCall} {rest : Log}
    (hbefore : first.before.isPresent paths.listing = false)
    (hlisted : first.after.isPresent paths.listing = true)
    (hbefore' : second.before.isPresent paths.compiled = false)
    (hafter : second.Succeeds → second.after.isPresent paths.compiled = false →
      rest = [] ∧ ∃ e, result = .error (.stage name .deployed (.read paths.compiled e))) :
    Fresh paths name (.tool first :: .tool second :: rest) result where
  listing first rest h := by
    cases h
    refine ⟨hbefore, fun _ habsent => ?_⟩
    rw [hlisted] at habsent
    cases habsent
  compiled first second rest h := by
    cases h
    exact ⟨hbefore', hafter⟩

lemma extract_of_not_isPresent {function : String} {d : Disk}
    (h : d.isPresent bench.paths.listing = false) :
    ∃ e, extract bench function d = .error (.read bench.paths.listing e) := by
  obtain ⟨e, he⟩ := Disk.readText_of_not_isPresent h
  refine ⟨e, ?_⟩
  rw [extract, he]
  rfl

def finish (bench : Bench σ) (target : BuildTarget) (code : Listing.Extracted) : Work σ Path := do
  atStage bench target.name .codeBound <|
    Work.onDisk ((probe bench).bindCode code bench.project.probe.accessor)
  atStage bench target.name .recompiled <| compile bench bench.paths.compiled
  let payload ← atStage bench target.name .deployed <| deploy bench
  atStage bench target.name .persisted <| Work.onDisk (persist bench target.name payload)

lemma run_eq (bench : Bench σ) (target : BuildTarget) :
    run bench target = (do
      atStage bench target.name .pathBound <| Work.onDisk ((probe bench).bindPath target.path)
      atStage bench target.name .compiled <| compile bench bench.paths.listing
      let code ← atStage bench target.name .extracted <|
        Work.readDisk (extract bench target.functionName)
      finish bench target code) :=
  rfl

variable {target : BuildTarget}

lemma fresh_finish {code : Listing.Extracted} {first : ToolCall} {site final : Site (σ × Log)}
    (hbefore : first.before.isPresent bench.paths.listing = false)
    (hlisted : first.after.isPresent bench.paths.listing = true)
    (hcalls : site.calls = [.tool first])
    (h : finish bench.logged target code site = (result, final)) :
    Fresh bench.paths target.name final.calls result := by
  have hone : Fresh bench.paths target.name [.tool first] result :=
    .one hbefore fun _ habsent => absurd (hlisted.symm.trans habsent) nofun
  rw [finish] at h
  rcases Work.bind_eq.mp h with ⟨e, h₁, rfl⟩ | ⟨_, s₁, h₁, h⟩
  · rw [onDisk_stage_error h₁, hcalls]
    exact hone
  obtain ⟨-, hc₁⟩ := onDisk_stage_ok h₁
  rw [hcalls] at hc₁
  rcases Work.bind_eq.mp h with ⟨e, h₂, rfl⟩ | ⟨_, s₂, h₂, h⟩
  · rcases compile_stage_error h₂ with hc₂ | ⟨second, hremove, hfails, hc₂⟩
    · rw [hc₂, hc₁]
      exact hone
    · rw [hc₂, hc₁]
      exact .more hbefore hlisted (isPresent_of_removeStale hremove)
        fun hsucceeds => absurd hsucceeds hfails
  obtain ⟨second, hremove, -, -, hd₂, hc₂⟩ := compile_stage_ok h₂
  have hbefore' := isPresent_of_removeStale hremove
  rw [hc₁] at hc₂
  -- A program that could be loaded was written by the second call.
  have hloaded : ∀ third : SandboxCall,
      Program.load bench.paths.compiled s₂.disk = .ok third.program →
        Fresh bench.paths target.name [.tool first, .tool second, .sandbox third] result := by
    intro third hload
    have hpresent := Program.isPresent_of_load hload
    rw [hd₂] at hpresent
    exact .more hbefore hlisted hbefore' fun _ habsent => absurd (hpresent.symm.trans habsent) nofun
  rcases Work.bind_eq.mp h with ⟨e, h₃, rfl⟩ | ⟨payload, s₃, h₃, h₄⟩
  · rcases deploy_stage_error h₃ with ⟨cause, hload, rfl, hc₃⟩ | ⟨third, hload, hc₃⟩
    · rw [hc₃, hc₂]
      refine .more hbefore hlisted hbefore' fun _ habsent => ⟨rfl, ?_⟩
      obtain ⟨e, he⟩ := Program.load_of_not_isPresent (hd₂ ▸ habsent)
      cases he.symm.trans hload
      exact ⟨e, rfl⟩
    · rw [hc₃, hc₂]
      exact hloaded third hload
  obtain ⟨third, hload, -, -, -, -, -, hc₃⟩ := deploy_stage_ok h₃
  rw [onDisk_stage_calls h₄, hc₃, hc₂]
  exact hloaded third hload

lemma fresh_run {site : Site σ} {final : Site (σ × Log)}
    (h : run bench.logged target (site.logging []) = (result, final)) :
    Fresh bench.paths target.name final.calls result := by
  rw [run_eq] at h
  rcases Work.bind_eq.mp h with ⟨e, h₁, rfl⟩ | ⟨_, s₁, h₁, h⟩
  · rw [onDisk_stage_error h₁]
    exact .none
  obtain ⟨-, hc₁⟩ := onDisk_stage_ok h₁
  rcases Work.bind_eq.mp h with ⟨e, h₂, rfl⟩ | ⟨_, s₂, h₂, h⟩
  · rcases compile_stage_error h₂ with hc₂ | ⟨call, hremove, hfails, hc₂⟩
    · rw [hc₂, hc₁]
      exact .none
    · rw [hc₂, hc₁]
      exact .one (isPresent_of_removeStale hremove) fun hsucceeds => absurd hsucceeds hfails
  obtain ⟨first, hremove, -, -, hd₂, hc₂⟩ := compile_stage_ok h₂
  have hbefore := isPresent_of_removeStale hremove
  rw [hc₁] at hc₂
  rcases Work.bind_eq.mp h with ⟨e, h₃, rfl⟩ | ⟨code, s₃, h₃, h⟩
  · obtain ⟨cause, hcause, rfl, hc₃⟩ := readDisk_stage_error h₃
    rw [hc₃, hc₂]
    refine .one hbefore fun _ habsent => ?_
    have hmissing : s₂.disk.isPresent bench.logged.paths.listing = false := hd₂ ▸ habsent
    obtain ⟨e, he⟩ := extract_of_not_isPresent hmissing
    cases he.symm.trans hcause
    exact ⟨e, rfl⟩
  obtain ⟨hextract, -, hc₃⟩ := readDisk_stage_ok h₃
  obtain ⟨text, htext, -⟩ := extract_eq_ok.mp hextract
  have hlisted : first.after.isPresent bench.paths.listing = true := by
    rw [← hd₂]
    exact Disk.isPresent_of_readText htext
  exact fresh_finish hbefore hlisted (hc₃.trans hc₂) h

end Pipeline

end DeployForge
