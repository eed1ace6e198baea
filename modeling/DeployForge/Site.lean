import DeployForge.Disk
import DeployForge.Error

/-!
Where a run takes place: the disk, and the state of everything outside the program, such as its
tools and whoever watches its progress.
-/

namespace DeployForge

structure Site (σ : Type) where
  disk : Disk
  outside : σ

/-- Work at a site that may fail, and that may have changed the site when it does. -/
abbrev Work (σ : Type) := ExceptT Error (StateM (Site σ))

namespace Work

variable {σ α : Type}

def onDisk (action : Disk → Except Error α × Disk) : Work σ α := fun site =>
  match action site.disk with
  | (result, disk) => (result, { site with disk })

def readDisk (action : Disk → Except Error α) : Work σ α := fun site => (action site.disk, site)

end Work

end DeployForge
