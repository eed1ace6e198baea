import DeployForge.Profile
import DeployForge.Registry
import DeployForge.Tool
import DeployForge.Variables

namespace DeployForge

structure PathsConfig where
  constants : Path := ⟨"contracts/imports/constants.tolk"⟩
  probeSource : Path := ⟨"contracts/get_deploy_functions.tolk"⟩
  listing : Path := ⟨"build/DeployFunctions/DeployFunctions.fif"⟩
  compiled : Path := ⟨"build/DeployFunctions.compiled.json"⟩
  outputDir : Path := ⟨"deploy_functions_compiled"⟩
  deriving DecidableEq, Repr

namespace PathsConfig

def resolve (root : Path) (paths : PathsConfig) : PathsConfig where
  constants := root.join paths.constants
  probeSource := root.join paths.probeSource
  listing := root.join paths.listing
  compiled := root.join paths.compiled
  outputDir := root.join paths.outputDir

end PathsConfig

structure ToolsConfig where
  blueprint : ToolCommand := ⟨"npx", ["blueprint"]⟩
  sandbox : ToolCommand := ⟨"npx", ["ts-node", "scripts/callDeployFunctionGetter.ts"]⟩
  deriving DecidableEq, Repr

structure ProbeConfig where
  name : String := "DeployFunctions"
  accessor : String := "getDeployFunctionCell"
  deployValue : Nat := 1000000000
  deriving DecidableEq, Repr

structure Project where
  paths : PathsConfig
  tools : ToolsConfig
  probe : ProbeConfig
  contracts : List String
  registry : Registry
  profiles : Profiles
  dotenv : Variables := []

namespace Project

/-- The environment goes before the variables of the project's own file. -/
def lookup (project : Project) (environment : Variables) (name : String) : Option String :=
  (environment.value? name).or (project.dotenv.lookup name)

def replacementSet (project : Project) (environment : Variables) (profile : Profile) :
    ReplacementSet :=
  project.profiles.replacementSet (project.lookup environment) profile

end Project

end DeployForge
