import DeployForge.Constants
import DeployForge.Site

namespace DeployForge

/-- How a step ended: with a result, or with a crash of the kind `κ`. -/
inductive Ended (κ α : Type) where
  | returned (result : Except Error α)
  | crashed (cause : κ)

namespace ConstantsFile

variable {σ κ α : Type}

/-- A write-back that fails goes before what the step returned, and a crash before both. -/
def settle (guard : ConstantsGuard) (site : Site σ) : Ended κ α → Ended κ α × Site σ
  | .crashed cause => (.crashed cause, { site with disk := guard.drop site.disk })
  | .returned result =>
    match guard.restore site.disk with
    | (.error e, disk) => (.returned (.error e), { site with disk })
    | (.ok (), disk) => (.returned result, { site with disk })

def transaction (file : ConstantsFile) (set : ReplacementSet)
    (step : Site σ → Ended κ α × Site σ) (site : Site σ) : Ended κ α × Site σ :=
  match file.prepare set site.disk with
  | (.error e, disk) => (.returned (.error e), { site with disk })
  | (.ok guard, disk) =>
    match step { site with disk } with
    | (ended, site) => settle guard site ended

end ConstantsFile

end DeployForge
