import DeployForge.Disk.Fault
import DeployForge.Path
import DeployForge.Stage
import DeployForge.Text.Blank

namespace DeployForge

inductive Error where
  | config (message : String)
  | unknownTarget (name available : String)
  | toolchain (message : String)
  | externalTool (tool : String) (status : Int) (stderr : String)
  | extraction (message : String)
  | payload (message : String)
  | read (path : Path) (cause : IoError)
  | write (path : Path) (cause : IoError)
  | restore (path : Path) (cause : IoError)
  | io (cause : IoError)
  | stage (target : String) (stage : Stage) (cause : Error)
  deriving Repr, Inhabited

namespace Error

def stderrNote (stderr : String) : String :=
  let text := Text.trimmed stderr
  if text.isEmpty then "" else ":\n" ++ text

def message : Error → String
  | config text => "configuration error: " ++ text
  | unknownTarget name available =>
    "unknown target '" ++ name ++ "' (available: " ++ available ++ ")"
  | toolchain text => "toolchain error: " ++ text
  | externalTool tool status stderr =>
    tool ++ " exited with status " ++ toString status ++ stderrNote stderr
  | extraction text => "extraction error: " ++ text
  | payload text => "invalid payload: " ++ text
  | read path cause => "failed to read " ++ path.text ++ ": " ++ cause.message
  | write path cause => "failed to write " ++ path.text ++ ": " ++ cause.message
  | restore path cause =>
    "failed to restore " ++ path.text ++ ": " ++ cause.message
      ++ "; the file may still contain substituted constants"
  | io cause => "IO error: " ++ cause.message
  | stage target s cause =>
    s.name ++ " stage failed for " ++ target ++ ": " ++ cause.message

/-- A tool's own status passes through. -/
def exitCode : Error → Int
  | externalTool _ status _ => if status = 0 then 1 else status
  | config _ | unknownTarget _ _ => 2
  | extraction _ => 3
  | payload _ => 4
  | read _ _ | write _ _ | restore _ _ | io _ => 5
  | toolchain _ => 127
  | stage _ _ cause => cause.exitCode

def stage? : Error → Option Stage
  | stage _ s _ => some s
  | _ => none

def causes : Error → List String
  | read _ cause | write _ cause | restore _ cause | io cause => [cause.message]
  | stage _ _ cause => cause.message :: cause.causes
  | _ => []

def report (e : Error) : String := ": ".intercalate (e.message :: e.causes)

end Error

end DeployForge
