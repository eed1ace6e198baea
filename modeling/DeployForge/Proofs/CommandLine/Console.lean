import DeployForge.CommandLine.Session
import DeployForge.Proofs.Batch.OneByOne

namespace DeployForge

variable {σ τ : Type} {view : σ → τ}

lemma Shell.maps_toolRunner {print : String → σ → σ} {print' : String → τ → τ}
    (h : ∀ text outside, print' text (view outside) = view (print text outside))
    (environment : Variables) (directory : Path) (command : ToolCommand) (args : List String)
    (mode : OutputMode) :
    (toolRunner environment directory print command args mode).Maps view
      (toolRunner environment directory print' command args mode) := by
  intro site
  have hdisk : (site.map view).disk = site.disk := rfl
  rw [toolRunner, toolRunner, hdisk]
  rcases runTool environment directory command args site.disk with e | ⟨output, disk⟩
  · rfl
  · cases mode with
    | capture => rfl
    | inherit_ => exact Prod.ext rfl (congrArg (Site.mk disk) (h _ _))

lemma Sandbox.maps_ofCommand {run : ToolRunner σ} {run' : ToolRunner τ}
    (h : ∀ command args mode, (run command args mode).Maps view (run' command args mode))
    (command : ToolCommand) (program : Program) (getter : String) (value : ℕ) :
    (ofCommand run command program getter value).Maps view
      (ofCommand run' command program getter value) :=
  (h _ _ _).bind fun _ => Work.maps_lift _

namespace CommandLine

variable (environment : Variables) (project : Project) (root : Path)

def shellBench : Bench Console :=
  bench (Shell.toolRunner environment · Console.print) environment project root

def unseen (_ : Console) : Unit := ()

def unprinted (_ : String) (outside : Unit) : Unit := outside

def silentTools : Toolbox Unit where
  run := Shell.toolRunner environment root unprinted
  sandbox := Sandbox.ofCommand (Shell.toolRunner environment root unprinted) project.tools.sandbox
  notify _ _ outside := outside

lemma maps_silentTools :
    (shellBench environment project root).tools.Maps unseen
      (silentTools environment project root) := by
  have hprint : ∀ text c, unprinted text (unseen c) = unseen (Console.print text c) :=
    fun _ _ => rfl
  have hrun := Shell.maps_toolRunner hprint environment root
  exact ⟨hrun, Sandbox.maps_ofCommand hrun project.tools.sandbox, fun _ _ _ => rfl⟩

theorem hidesCounts_shellBench :
    (shellBench environment project root).HidesCounts unseen
      (silentTools environment project root) :=
  ⟨maps_silentTools environment project root, fun _ => rfl⟩

theorem run_ignores_console (request : BatchRequest) (d : Disk) (c c' : Console) :
    let ended : Except Error BatchReport × Site Console :=
      Batch.run (shellBench environment project root) request ⟨d, c⟩
    let ended' : Except Error BatchReport × Site Console :=
      Batch.run (shellBench environment project root) request ⟨d, c'⟩
    ended.1 = ended'.1 ∧ ended.2.disk = ended'.2.disk := by
  intro ended ended'
  have hmaps := Batch.maps_run (maps_silentTools environment project root) request
  have hsilent := (hmaps ⟨d, c⟩).symm.trans (hmaps ⟨d, c'⟩)
  exact ⟨congrArg (·.1) hsilent, congrArg (·.2.disk) hsilent⟩

end CommandLine

end DeployForge
