import DeployForge.Error

namespace DeployForge

structure ToolCommand where
  program : String
  args : List String
  deriving DecidableEq, Repr

namespace ToolCommand

def unnamed : String := "tool command must name a program"

def ofList? : List String → Option ToolCommand
  | [] => none
  | program :: args => some ⟨program, args⟩

def display (command : ToolCommand) : String := " ".intercalate (command.program :: command.args)

end ToolCommand

inductive OutputMode where
  | inherit_
  | capture
  deriving DecidableEq, Repr

structure ToolOutput where
  status : Int := 0
  stdout : String := ""
  stderr : String := ""
  deriving DecidableEq, Repr

namespace ToolOutput

def isSuccess (output : ToolOutput) : Bool := output.status = 0

def check (output : ToolOutput) (command : ToolCommand) : Except Error ToolOutput :=
  if output.isSuccess then .ok output
  else .error (.externalTool command.display output.status output.stderr)

end ToolOutput

end DeployForge
