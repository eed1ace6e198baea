import DeployForge.Config
import DeployForge.Progress
import DeployForge.Sandbox

namespace DeployForge

structure Toolbox (σ : Type) where
  run : ToolRunner σ
  sandbox : Sandbox σ
  notify : Event → Disk → σ → σ

structure Bench (σ : Type) where
  project : Project
  environment : Variables
  paths : PathsConfig
  tools : Toolbox σ

namespace Bench

variable {σ : Type}

def notify (bench : Bench σ) (event : Event) : Work σ Unit := fun site =>
  (.ok (), { site with outside := bench.tools.notify event site.disk site.outside })

def runChecked (bench : Bench σ) (command : ToolCommand) (args : List String)
    (mode : OutputMode) : Work σ ToolOutput := do
  let output ← bench.tools.run command args mode
  (output.check command : Except Error ToolOutput)

end Bench

end DeployForge
