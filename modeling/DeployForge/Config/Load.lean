import DeployForge.Config.Decode
import DeployForge.Disk
import DeployForge.Dotenv

namespace DeployForge.Project

def configFile : Path := ⟨"marketkit.toml"⟩
def envFile : Path := ⟨".env"⟩

def ofToml (text : String) : Except Error Project :=
  match Config.read text with
  | .error problem => .error (.config problem.message)
  | .ok sections => sections.project

def loadSections (path : Path) (d : Disk) : Except Error Config.Sections :=
  if d.isPresent path then
    match d.readText path with
    | .error e => .error (.read path e)
    | .ok text =>
      (Config.read text).mapError fun problem => .config (path.text ++ ": " ++ problem.message)
  else .ok {}

def dotenvMessage : Dotenv.Problem → String
  | .unreadable => IoError.invalidText.message
  | .badLine line => "Error parsing line: '" ++ String.ofList line ++ "', error at line index"

def loadVariables (environment : Variables) (path : Path) (d : Disk) : Except Error Variables :=
  if d.isPresent path then
    match d.read path with
    | .error e => .error (.config (path.text ++ ": " ++ e.message))
    | .ok content =>
      (Dotenv.read environment content).mapError fun problem =>
        .config (path.text ++ ": " ++ dotenvMessage problem)
  else .ok []

/-- A file that is missing leaves the defaults. -/
def load (environment : Variables) (root : Path) (d : Disk) : Except Error Project := do
  let sections ← loadSections (root.join configFile) d
  let project ← sections.project
  let dotenv ← loadVariables environment (root.join envFile) d
  return { project with dotenv }

end DeployForge.Project
