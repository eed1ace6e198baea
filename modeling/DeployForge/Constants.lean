import DeployForge.Disk
import DeployForge.Error
import DeployForge.Replacement

/-!
The shared constants file. A change of it is held by a guard, which knows the content to write
back.
-/

namespace DeployForge

structure ConstantsFile where
  path : Path
  deriving DecidableEq, Repr

/-- A change of the file in flight, until its snapshot was written back. -/
structure ConstantsGuard where
  file : ConstantsFile
  snapshot : String
  isPending : Bool := true
  deriving DecidableEq, Repr

namespace ConstantsFile

def snapshot (file : ConstantsFile) (d : Disk) : Except Error String :=
  (d.readText file.path).mapError (.read file.path)

def writeBack (file : ConstantsFile) (snapshot : String) (d : Disk) : Except Error Unit × Disk :=
  match d.writeText file.path snapshot with
  | (.error e, d) => (.error (.restore file.path e), d)
  | (.ok (), d) => (.ok (), d)

end ConstantsFile

namespace ConstantsGuard

/-- Writes back what is still pending, and nobody hears of a failure. -/
def drop (guard : ConstantsGuard) (d : Disk) : Disk :=
  if guard.isPending then (guard.file.writeBack guard.snapshot d).2 else d

/-- Writes back once. The guard ends here, with nothing pending even when the write failed. -/
def restore (guard : ConstantsGuard) (d : Disk) : Except Error Unit × Disk :=
  let spent := { guard with isPending := false }
  match if guard.isPending then guard.file.writeBack guard.snapshot d else (.ok (), d) with
  | (result, d) => (result, spent.drop d)

end ConstantsGuard

namespace ConstantsFile

/-- Puts the replacements into the file. A write that fails is rolled back. -/
def prepare (file : ConstantsFile) (set : ReplacementSet) (d : Disk) :
    Except Error ConstantsGuard × Disk :=
  match file.snapshot d with
  | .error e => (.error e, d)
  | .ok snapshot =>
    match d.writeText file.path (set.apply snapshot) with
    | (.ok (), d) => (.ok { file, snapshot }, d)
    | (.error e, d) =>
      match file.writeBack snapshot d with
      | (.error restoreError, d) => (.error restoreError, d)
      | (.ok (), d) => (.error (.write file.path e), d)

end ConstantsFile

end DeployForge
