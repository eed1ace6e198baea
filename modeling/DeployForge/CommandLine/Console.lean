import DeployForge.Batch
import DeployForge.CommandLine.Style

namespace DeployForge.CommandLine

structure Console where
  isColored : Bool
  output : String := ""
  deriving DecidableEq, Repr

namespace Console

def print (text : String) (c : Console) : Console := { c with output := c.output ++ text }

def printLine (text : String) (c : Console) : Console := c.print (text ++ "\n")

def paint (c : Console) (tone : Tone) (text : String) : String :=
  CommandLine.paint c.isColored tone text

/-- A failed stage leaves its line open, and the mark ends it. -/
def note (event : Event) (c : Console) : Console :=
  match event with
  | .targetStarted target index total =>
    let count := "[" ++ toString (index + 1) ++ "/" ++ toString total ++ "]"
    c.printLine (c.paint .muted count ++ " " ++ c.paint .target target)
  | .stageStarted _ stage => c.print (c.paint .step ("  ◆ " ++ stage.name) ++ " ... ")
  | .stageCompleted _ _ => c.printLine (c.paint .ok "✓")
  | .targetFinished outcome =>
    if outcome.isSuccess then c
    else
      let indent := if outcome.stage.isSome then "" else "  "
      c.printLine (indent ++ c.paint .fail "✗" ++ " " ++ outcome.error.getD "failed")

def header (action : Action) (root : Path) (c : Console) : Console :=
  c.printLine ("\n" ++ c.paint .heading "marketkit" ++ " - " ++ action.name ++ " in "
    ++ c.paint .target root.text ++ "\n")

def outcomeLine (c : Console) (root : Path) (outcome : TargetOutcome) : String :=
  if outcome.isSuccess then
    let detail (artifact : Path) : String := ((root.relativeTo? artifact).getD artifact).text
    "  " ++ c.paint .ok "✓" ++ " " ++ outcome.target ++ " "
      ++ c.paint .muted ((outcome.artifact.map detail).getD "")
  else
    let place := (outcome.stage.map fun stage => " at " ++ stage.name).getD ""
    "  " ++ c.paint .fail "✗" ++ " " ++ outcome.target ++ " failed" ++ place ++ " (status "
      ++ toString outcome.status ++ ")"

def summary (report : BatchReport) (root : Path) (c : Console) : Console :=
  let title := c.paint .heading ("Summary (" ++ report.action.name ++ ")")
  let label := if report.failures.isEmpty then c.paint .ok "Done:" else c.paint .fail "Failed:"
  let total := label ++ " " ++ toString report.successes ++ " succeeded, "
    ++ toString report.failures.length ++ " failed"
  ("" :: title :: report.outcomes.map (c.outcomeLine root) ++ ["", total]).foldl
    (fun c line => c.printLine line) c

def elapsedLine (hundredths : Nat) (c : Console) : String :=
  let fraction := toString (hundredths % 100)
  c.paint .muted "Time:" ++ " " ++ toString (hundredths / 100) ++ "."
    ++ (if fraction.length = 1 then "0" ++ fraction else fraction) ++ "s"

end Console

end DeployForge.CommandLine
