import DeployForge.Error

namespace DeployForge

/-- How one target ended. The status is zero for a success. -/
structure TargetOutcome where
  target : String
  status : Int
  stage : Option Stage := none
  error : Option String := none
  artifact : Option Path := none
  deriving DecidableEq, Repr

namespace TargetOutcome

def succeeded (target : String) (artifact : Option Path) : TargetOutcome where
  target
  status := 0
  artifact

def failed (target : String) (e : Error) : TargetOutcome where
  target
  status := e.exitCode
  stage := e.stage?
  error := some e.message

def isSuccess (outcome : TargetOutcome) : Bool := outcome.status = 0

end TargetOutcome

inductive Event where
  | targetStarted (target : String) (index total : Nat)
  | stageStarted (target : String) (stage : Stage)
  | stageCompleted (target : String) (stage : Stage)
  | targetFinished (outcome : TargetOutcome)
  deriving DecidableEq, Repr

end DeployForge
