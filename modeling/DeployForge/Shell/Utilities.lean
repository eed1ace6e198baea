import DeployForge.Shell.Find.Run
import DeployForge.Shell.Utility.Armor
import DeployForge.Shell.Utility.Checking
import DeployForge.Shell.Utility.Checksums
import DeployForge.Shell.Utility.Chunks
import DeployForge.Shell.Utility.Concatenation
import DeployForge.Shell.Utility.Copying
import DeployForge.Shell.Utility.Count
import DeployForge.Shell.Utility.Cutting
import DeployForge.Shell.Utility.Difference
import DeployForge.Shell.Utility.Dump
import DeployForge.Shell.Utility.Editing
import DeployForge.Shell.Utility.Ends
import DeployForge.Shell.Utility.Environment
import DeployForge.Shell.Utility.Exchange
import DeployForge.Shell.Utility.Listing
import DeployForge.Shell.Utility.Matching
import DeployForge.Shell.Utility.Merging
import DeployForge.Shell.Utility.Numbering
import DeployForge.Shell.Utility.Numbers
import DeployForge.Shell.Utility.Printing
import DeployForge.Shell.Utility.Records
import DeployForge.Shell.Utility.Sorting
import DeployForge.Shell.Utility.System

namespace DeployForge.Shell

def utilities : List (String × Utility) := [
  ("[", Utility.bracket),
  ("awk", Utility.awk),
  ("base64", Utility.base64),
  ("basename", Utility.basename),
  ("cat", Utility.cat),
  ("chmod", Utility.chmod),
  ("cmp", Utility.cmp),
  ("comm", Utility.comm),
  ("cp", Utility.cp),
  ("cut", Utility.cut),
  ("dd", Utility.dd),
  ("dirname", Utility.dirname),
  ("echo", Utility.echo),
  ("env", Utility.env),
  ("false", Utility.failing),
  ("find", Find.find),
  ("fold", Utility.fold),
  ("grep", Utility.grep),
  ("head", Utility.head),
  ("install", Utility.install),
  ("join", Utility.join),
  ("kill", Utility.kill),
  ("ln", Utility.ln),
  ("ls", Utility.ls),
  ("mkdir", Utility.mkdir),
  ("mv", Utility.mv),
  ("nl", Utility.nl),
  ("od", Utility.od),
  ("paste", Utility.paste),
  ("printenv", Utility.printenv),
  ("printf", Utility.printf),
  ("pwd", Utility.pwd),
  ("realpath", Utility.realpath),
  ("rm", Utility.rm),
  ("rmdir", Utility.rmdir),
  ("sed", Utility.sed),
  ("seq", Utility.seq),
  ("sha256sum", Utility.sha256sum),
  ("sleep", Utility.sleep),
  ("sort", Utility.sort),
  ("stat", Utility.stat),
  ("tail", Utility.tail),
  ("tee", Utility.tee),
  ("test", Utility.test),
  ("touch", Utility.touch),
  ("tr", Utility.tr),
  ("true", Utility.succeed),
  ("truncate", Utility.truncate),
  ("uniq", Utility.uniq),
  ("wc", Utility.wc)]

def utility? (name : String) : Option Utility := utilities.lookup name

def runUtility (run : Utility) (c : Call) : Act Unit := fun m =>
  let work : Act Unit := do Act.setStatus (← run c)
  match work { m with writeFault := none } with
  | (.ok (), m) | (.error .exit, m) =>
    match m.writeFault with
    | some e =>
      (do
        c.complain ("write error: ".toList ++ Octets.ofString e.text)
        Act.setStatus 1) { m with writeFault := none }
    | none => (.ok (), m)
  | result => result

end DeployForge.Shell
