import DeployForge.Sandbox
import DeployForge.Shell.Evaluation
import DeployForge.Variables

namespace DeployForge.Shell

def depth : Nat := 1000000

def usualPath : String := "/usr/bin:/bin"

def processVariables (environment : Variables) : List (Octets × Variable) :=
  let given := if (environment.value? "PATH").isSome then environment
    else ("PATH", usualPath) :: environment
  (given.mergeSort fun a b => Octets.atMost (.ofString a.1) (.ofString b.1)).map fun (name, value) =>
    (.ofString name, { value := some (.ofString value), isExported := true })

def machine (environment : Variables) (tree : Tree) (place : Location) : Machine := {
  storage := .ofTree tree place
  bindings := processVariables environment
  opened := #[{ channel := .device .null, isWritable := false },
    { channel := .stream 0, isReadable := false }, { channel := .stream 1, isReadable := false }]
  table := [(0, 0), (1, 1), (2, 2)]
  streams := #[[], []]
  streamSizes := #[0, 0] }

/-- Why a tool cannot be started in a directory, or what it runs. -/
def image (d : Disk) (m : Machine) (directory program : Path) (words : List String) :
    Except IoError Image := do
  if (program.text :: words).any (·.toList.contains '\x00') then .error .nulInCommand
  match ← d.tree.status d.place directory with
  | .file _ _ => .error (.os .notDirectory)
  | .directory =>
    match Image.load m.storage (.ofString program.text)
        ((program.text :: words).map Octets.ofString) with
    | .ok image => .ok image
    | .error e => .error (.os e)

def interpreter : Interpreter := { depth, evaluate := evaluate depth }

def runImage (image : Image) (m : Machine) : Except Stop Unit × Machine :=
  let (result, m) := interpreter.start depth image m
  let (_, after) := interpreter.runJobs (m.now + Nat.pow 2 40) depth m
  (result, { after with status := m.status })

def resolve (environment : Variables) (m : Machine) (directory : Path) (program : String) :
    Except Error Path :=
  if program.toList.contains '/' then .ok (directory.join ⟨program⟩)
  else
    let path := (environment.value? "PATH").getD usualPath
    match if program.isEmpty then .error .noEntry
      else Search.inPath m.storage (some (.ofString path)) (.ofString program) with
    | .ok p => .ok ⟨p.toText⟩
    | .error (_ : OsError) => .error (.toolchain (program ++ " not found in PATH"))

def notStarted (command : ToolCommand) (directory : Path) (e : IoError) : Error :=
  .toolchain ("Failed to run " ++ command.display ++ " (working dir: " ++ directory.text ++ "): "
    ++ e.message)

/-- A tool that a signal ended has no status of its own. -/
def output (result : Except Stop Unit) (m : Machine) : ToolOutput where
  status := match result with
    | .error (.killed _) | .error .exhausted => 1
    | _ => m.status % 256
  stdout := (m.stream 0).toText
  stderr := (m.stream 1).toText

def runTool (environment : Variables) (directory : Path) (command : ToolCommand)
    (args : List String) (d : Disk) : Except Error (ToolOutput × Disk) := do
  let m := machine environment d.tree (((d.tree.locate d.place directory).toOption).getD [])
  let program ← resolve environment m directory command.program
  let image ← (image d m directory program (command.args ++ args)).mapError
    (notStarted command directory)
  let (result, m) := runImage image m
  return (output result m, { d with tree := m.storage.settled })

def toolRunner {σ : Type} (environment : Variables) (directory : Path)
    (print : String → σ → σ) : ToolRunner σ := fun command args mode site =>
  match runTool environment directory command args site.disk with
  | .error e => (.error e, site)
  | .ok (output, disk) =>
    match mode with
    | .capture => (.ok output, { site with disk })
    | .inherit_ => (.ok { output with stdout := "", stderr := "" },
        ⟨disk, print output.stdout site.outside⟩)

end DeployForge.Shell
