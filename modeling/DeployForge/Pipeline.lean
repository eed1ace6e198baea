import DeployForge.Artifact
import DeployForge.Bench
import DeployForge.Probe

/-!
The stages of one target. The probe is compiled twice, since the code that it holds is known only
after it was compiled once. What an earlier compilation wrote is removed before each one.
-/

namespace DeployForge.Pipeline

variable {σ α : Type} (bench : Bench σ)

/-- Work as one stage of a target. Its error names the stage. -/
def atStage (target : String) (stage : Stage) (work : Work σ α) : Work σ α := do
  bench.notify (.stageStarted target stage)
  let value ← ExceptT.adapt (.stage target stage) work
  bench.notify (.stageCompleted target stage)
  return value

/-- A file that is not there is as good as removed. -/
def removeStale (path : Path) (d : Disk) : Except Error Unit × Disk :=
  match d.remove path with
  | (.error e, d) => (if e = .os .noEntry then .ok () else .error (.write path e), d)
  | (.ok (), d) => (.ok (), d)

def compileArguments : List String := ["build", bench.project.probe.name]

/-- Compiles the probe, so that what is at `output` afterwards comes from this compilation. -/
def compile (output : Path) : Work σ Unit := do
  Work.onDisk (removeStale output)
  let _ ← bench.runChecked bench.project.tools.blueprint (compileArguments bench) .capture

def extract (function : String) (d : Disk) : Except Error Listing.Extracted := do
  let listing ← (d.readText bench.paths.listing).mapError (.read bench.paths.listing)
  Listing.extract listing function

def probe : ProbeModule := ⟨bench.paths.probeSource⟩

def store : ArtifactStore := ⟨bench.paths.outputDir⟩

def deploy : Work σ String := do
  let program ← Work.readDisk (Program.load bench.paths.compiled)
  bench.tools.sandbox program bench.project.probe.accessor bench.project.probe.deployValue

def persist (target payload : String) (d : Disk) : Except Error Path × Disk :=
  match Artifact.ofHex target payload with
  | .error e => (.error e, d)
  | .ok artifact => (store bench).persist artifact d

def run (target : BuildTarget) : Work σ Path := do
  let stage {α : Type} (s : Stage) (work : Work σ α) := atStage bench target.name s work
  stage .pathBound <| Work.onDisk ((probe bench).bindPath target.path)
  stage .compiled <| compile bench bench.paths.listing
  let code ← stage .extracted <| Work.readDisk (extract bench target.functionName)
  stage .codeBound <| Work.onDisk ((probe bench).bindCode code bench.project.probe.accessor)
  stage .recompiled <| compile bench bench.paths.compiled
  let payload ← stage .deployed <| deploy bench
  stage .persisted <| Work.onDisk (persist bench target.name payload)

end DeployForge.Pipeline
