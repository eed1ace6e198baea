import DeployForge.Disk
import DeployForge.Error
import DeployForge.Listing.Extraction

/-!
The probe module: a small program that first imports a target's deploy function, and then holds
the code extracted from it behind a getter.
-/

namespace DeployForge

structure ProbeModule where
  path : Path
  deriving DecidableEq, Repr

namespace ProbeModule

def pathSource (contractPath : String) : String :=
  "import \"" ++ contractPath
    ++ "/deploy_function.tolk\";\n\nfun onInternalMessage(): void \x7b\n\x7d"

def codeSource (asm accessor : String) : String :=
  "\nfun deployFunctionCell(): cell\n    asm \"\"\"<\x7b\n    " ++ asm
    ++ "\n\x7d>c PUSHREF\"\"\";\n\n\nfun onInternalMessage(): void \x7b\n\x7d\n\nget fun "
    ++ accessor ++ "(): cell \x7b\n    return deployFunctionCell();\n\x7d"

def write (probe : ProbeModule) (source : String) (d : Disk) : Except Error Unit × Disk :=
  match d.writeText probe.path source with
  | (.error e, d) => (.error (.write probe.path e), d)
  | (.ok (), d) => (.ok (), d)

def bindPath (probe : ProbeModule) (contractPath : String) : Disk → Except Error Unit × Disk :=
  probe.write (pathSource contractPath)

def bindCode (probe : ProbeModule) (code : Listing.Extracted) (accessor : String) :
    Disk → Except Error Unit × Disk :=
  probe.write (codeSource code.text accessor)

end ProbeModule

end DeployForge
