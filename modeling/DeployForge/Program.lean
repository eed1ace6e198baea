import DeployForge.Disk
import DeployForge.Error
import DeployForge.Json.Member
import DeployForge.Text.Blank

namespace DeployForge

structure Program where
  hex : String
  path : Path
  deriving DecidableEq, Repr

namespace Program

def load (path : Path) (d : Disk) : Except Error Program :=
  match d.readText path with
  | .error e => .error (.read path e)
  | .ok text =>
    match Json.member? "hex" text.toList with
    | none => .error (.config (path.text ++ " is not a compiled program"))
    | some hex =>
      if Text.allBlank hex.toList then .error (.payload (path.text ++ " contains no code"))
      else .ok ⟨hex, path⟩

end Program

end DeployForge
