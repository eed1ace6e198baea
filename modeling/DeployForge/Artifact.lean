import DeployForge.Disk
import DeployForge.Error
import DeployForge.Text.Hex

namespace DeployForge

structure Artifact where
  target : String
  bytes : List UInt8
  deriving DecidableEq, Repr

namespace Artifact

def extension : String := "boc"

def ofHex (target payload : String) : Except Error Artifact :=
  let digits := Text.trim payload.toList
  if digits.isEmpty then .error (.payload ("empty payload for " ++ target))
  else match Text.Hex.decode digits with
    | .error e => .error (.payload (e.message ++ " for " ++ target))
    | .ok bytes => .ok ⟨target, bytes⟩

end Artifact

structure ArtifactStore where
  dir : Path
  deriving DecidableEq, Repr

namespace ArtifactStore

def path (store : ArtifactStore) (target : String) : Path :=
  store.dir.join ⟨target ++ "." ++ Artifact.extension⟩

def persist (store : ArtifactStore) (artifact : Artifact) (d : Disk) : Except Error Path × Disk :=
  match d.createDirectories store.dir with
  | (.error e, d) => (.error (.write store.dir e), d)
  | (.ok (), d) =>
    let path := store.path artifact.target
    match d.write path artifact.bytes.toByteArray with
    | (.error e, d) => (.error (.write path e), d)
    | (.ok (), d) => (.ok path, d)

def load (store : ArtifactStore) (target : String) (d : Disk) : Except Error Artifact :=
  let path := store.path target
  match d.read path with
  | .error e => .error (.read path e)
  | .ok bytes => .ok ⟨target, bytes.toList⟩

end ArtifactStore

end DeployForge
