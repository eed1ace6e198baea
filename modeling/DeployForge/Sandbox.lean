import DeployForge.Program
import DeployForge.Site
import DeployForge.Text.Lines
import DeployForge.Tool

/-!
The sandbox deploys a program and calls one of its getters. A command can do that: it gets the
program, the getter and the amount as arguments, and prints the result on its last line.
-/

namespace DeployForge

abbrev ToolRunner (σ : Type) := ToolCommand → List String → OutputMode → Work σ ToolOutput

abbrev Sandbox (σ : Type) := Program → String → Nat → Work σ String

namespace Sandbox

def arguments (program : Program) (getter : String) (value : Nat) : List String :=
  ["--program", program.path.text, "--getter", getter, "--value", toString value]

/-- The last line that is not blank, without the blanks around it. -/
def lastLine? (s : List Char) : Option (List Char) :=
  ((Text.lines s).map Text.trim).reverse.find? (!·.isEmpty)

def result (command : ToolCommand) (output : ToolOutput) : Except Error String := do
  let output ← output.check command
  match lastLine? output.stdout.toList with
  | some line => .ok (.ofList line)
  | none => .error (.payload (command.display ++ " printed no result"))

def ofCommand {σ : Type} (run : ToolRunner σ) (command : ToolCommand) : Sandbox σ :=
  fun program getter value => do
    let output ← run command (arguments program getter value) .capture
    (result command output : Except Error String)

end Sandbox

end DeployForge
