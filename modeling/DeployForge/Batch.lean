import DeployForge.Pipeline
import DeployForge.Transaction

/-!
Batches: one action over many targets, each inside its own transaction of the constants. A target
that fails is noted and the batch goes on; only a failure on the constants file ends it.
-/

namespace DeployForge

inductive Action where
  | build
  | test
  | run
  | deployFunctions
  deriving DecidableEq, Repr

namespace Action

def all : List Action := [build, test, run, deployFunctions]

def name : Action → String
  | build => "build"
  | test => "test"
  | run => "run"
  | deployFunctions => "get_deploy_functions"

end Action

inductive Selection where
  | all
  | named (name : String)
  deriving DecidableEq, Repr

structure BatchOptions where
  testnet : Bool := false
  gasReport : Bool := false
  testConstants : Bool := false
  extraArgs : List String := []
  deriving DecidableEq, Repr

structure BatchRequest where
  action : Action
  selection : Selection
  options : BatchOptions := {}
  deriving DecidableEq, Repr

structure BatchReport where
  action : Action
  outcomes : List TargetOutcome
  deriving DecidableEq, Repr

namespace BatchReport

def status (report : BatchReport) : Int :=
  ((report.outcomes.map (·.status)).find? (· ≠ 0)).getD 0

def failures (report : BatchReport) : List TargetOutcome :=
  report.outcomes.filter (!·.isSuccess)

def successes (report : BatchReport) : Nat := report.outcomes.countP (·.isSuccess)

end BatchReport

inductive Job where
  | contract (name : String)
  | deployFunction (target : BuildTarget)
  deriving DecidableEq, Repr

def Job.name : Job → String
  | contract name => name
  | deployFunction target => target.name

namespace BatchRequest

def withoutUnderscores (name : String) : String := .ofList (name.toList.filter (· ≠ '_'))

def jobs (request : BatchRequest) (project : Project) : Except Error (List Job) :=
  match request.action, request.selection with
  | .build, .all => .ok (project.contracts.map fun name => .contract (withoutUnderscores name))
  | .test, .all => .ok (project.contracts.map .contract)
  | .run, .all => .error (.config "run needs a script name")
  | .deployFunctions, .all => .ok (project.registry.targets.map .deployFunction)
  | .deployFunctions, .named name => do return [.deployFunction (← project.registry.get name)]
  | _, .named name => .ok [.contract name]

def network (request : BatchRequest) : Profile :=
  if request.options.testnet then .testnet else .mainnet

def baseSet (request : BatchRequest) (project : Project) (environment : Variables) :
    ReplacementSet :=
  match request.action with
  | .build | .run => project.replacementSet environment request.network
  | .test => project.replacementSet environment .test
  | .deployFunctions =>
    if request.options.testConstants then
      project.profiles.overridden (project.replacementSet environment .test)
    else project.replacementSet environment .mainnet

/-- Under tests the aggregator gets its own address in place of the shared one. -/
def targetSet (request : BatchRequest) (project : Project) (environment : Variables)
    (target : String) : ReplacementSet :=
  let base := request.baseSet project environment
  if request.action = .test && project.profiles.isAggregator target then
    project.profiles.overridden base
  else base

def testnetFlag : String := "--testnet"

def toolArguments (request : BatchRequest) (name : String) : List String :=
  let options := request.options
  let own := match request.action with
    | .test => (if options.gasReport then ["--gas-report"] else []) ++ [name]
    | .run =>
      name :: if options.testnet && !options.extraArgs.contains testnetFlag then [testnetFlag]
        else []
    | .build | .deployFunctions => [name]
  request.action.name :: own ++ options.extraArgs

end BatchRequest

namespace Batch

variable {σ : Type} (bench : Bench σ) (request : BatchRequest)

def perform : Job → Work σ (Option Path)
  | .contract name => do
    let _ ← bench.runChecked bench.project.tools.blueprint (request.toolArguments name) .inherit_
    return none
  | .deployFunction target => do return some (← Pipeline.run bench target)

def outcome (target : String) : Except Error (Option Path) → TargetOutcome
  | .ok artifact => .succeeded target artifact
  | .error e => .failed target e

def step (job : Job) (site : Site σ) : Ended Empty TargetOutcome × Site σ :=
  match perform bench request job site with
  | (result, site) => (.returned (.ok (outcome job.name result)), site)

/-- A job between the substitution of its constants and their return. -/
def runJob (job : Job) : Work σ TargetOutcome := fun site =>
  let file : ConstantsFile := ⟨bench.paths.constants⟩
  let set := request.targetSet bench.project bench.environment job.name
  match file.transaction set (step bench request job) site with
  | (.returned result, site) => (result, site)

def runJobs (index total : Nat) : List Job → Work σ (List TargetOutcome)
  | [] => return []
  | job :: rest => do
    bench.notify (.targetStarted job.name index total)
    let outcome ← runJob bench request job
    bench.notify (.targetFinished outcome)
    return outcome :: (← runJobs (index + 1) total rest)

def run : Work σ BatchReport := do
  let jobs ← (request.jobs bench.project : Except Error (List Job))
  return ⟨request.action, ← runJobs bench request 0 jobs.length jobs⟩

end Batch

end DeployForge
