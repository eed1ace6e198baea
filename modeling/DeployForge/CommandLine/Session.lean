import DeployForge.CommandLine.Arguments
import DeployForge.CommandLine.Console
import DeployForge.Config.Load
import DeployForge.Shell.Launch

namespace DeployForge.CommandLine

structure Ending where
  code : Nat
  console : Console
  error : Option String := none
  isUsageError : Bool := false
  isSummarized : Bool := false

/-- A status that is no exit code counts as a failure without one. -/
def exitCode (status : Int) : Nat :=
  if status = 0 then 0 else if 0 < status ∧ status < 256 then status.toNat else 1

def versionText : String := "marketkit 0.1.0"

def helpLines : List String := [
  "Build, test and package marketplace contracts",
  "",
  "Usage: marketkit [OPTIONS] <COMMAND>",
  "",
  "Commands:",
  "  build                 Build contracts with mainnet or testnet constants",
  "  test                  Run contract tests with test constants",
  "  run                   Run a script with mainnet or testnet constants",
  "  get-deploy-functions  Extract deploy functions into deploy_functions_compiled/",
  "  help                  Print this message or the help of the given subcommand(s)",
  "",
  "Options:",
  "  -v, --verbose            Enable verbose logging",
  "  -p, --project <PROJECT>  Project root containing contracts/ and marketkit.toml [default: .]",
  "  -h, --help               Print help",
  "  -V, --version            Print version"]

namespace Ending

def refused (console : Console) : Refusal → Ending
  | .usage => { code := 2, console, isUsageError := true }
  | .version => { code := 0, console := console.printLine versionText }
  | .help => { code := 0, console := helpLines.foldl (fun c line => c.printLine line) console }

def failed (console : Console) (status : Int) (text : String) : Ending where
  code := exitCode status
  console
  error := some (console.paint .fail "error:" ++ " " ++ text)

def ofError (console : Console) (e : Error) : Ending := failed console e.exitCode e.report

end Ending

def canonical (d : Disk) (dir : Path) : Except IoError Path := do
  let _ ← d.tree.status d.place dir
  return Path.ofNames (← d.tree.locate d.place dir)

abbrev Launcher := Path → ToolRunner Console

section Launching

variable (launch : Launcher) (environment : Variables)

def bench (project : Project) (root : Path) : Bench Console where
  project
  environment
  paths := project.paths.resolve root
  tools :=
    { run := launch root
      sandbox := Sandbox.ofCommand (launch root) project.tools.sandbox
      notify := fun event _ => Console.note event }

def execute (root : Path) (request : BatchRequest) (d : Disk) (console : Console) :
    Ending × Disk :=
  match Project.load environment root d with
  | .error e => (.ofError console e, d)
  | .ok project =>
    let console := console.header request.action root
    match Batch.run (bench launch environment project root) request ⟨d, console⟩ with
    | (.error e, site) => (.ofError site.outside e, site.disk)
    | (.ok report, site) =>
      ({ code := exitCode report.status
         console := site.outside.summary report root
         isSummarized := true }, site.disk)

def runWith (args : List String) (d : Disk) : Ending × Disk :=
  let console : Console := ⟨(environment.value? "NO_COLOR").isNone, ""⟩
  match Invocation.read args with
  | .error refusal => (.refused console refusal, d)
  | .ok invocation =>
    match invocation.request with
    | .error text => (.failed console 1 text, d)
    | .ok request =>
      match canonical d ⟨invocation.project⟩ with
      | .error e =>
        (.failed console 1
          ("Project directory not found: " ++ invocation.project ++ ": " ++ e.message), d)
      | .ok root => execute launch environment root request d console

end Launching

def run (environment : Variables) : List String → Disk → Ending × Disk :=
  runWith (Shell.toolRunner environment · Console.print) environment

end DeployForge.CommandLine
