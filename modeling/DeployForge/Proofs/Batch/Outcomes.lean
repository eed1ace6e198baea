import DeployForge.Batch
import DeployForge.Proofs.Outcome

namespace DeployForge

/-- What an error is shown as: a status, a stage and a text. -/
inductive Error.Shows : Error → Int → Option Stage → String → Prop
  | config {text} : Shows (.config text) 2 none ("configuration error: " ++ text)
  | unknownTarget {name available} : Shows (.unknownTarget name available) 2 none
      ("unknown target '" ++ name ++ "' (available: " ++ available ++ ")")
  | toolchain {text} : Shows (.toolchain text) 127 none ("toolchain error: " ++ text)
  | externalTool {tool status stderr} : status ≠ 0 →
      Shows (.externalTool tool status stderr) status none
        (tool ++ " exited with status " ++ toString status ++ stderrNote stderr)
  -- A tool that fails with a status of zero is not to be taken for a success.
  | zeroStatus {tool stderr} : Shows (.externalTool tool 0 stderr) 1 none
      (tool ++ " exited with status " ++ toString (0 : Int) ++ stderrNote stderr)
  | extraction {text} : Shows (.extraction text) 3 none ("extraction error: " ++ text)
  | payload {text} : Shows (.payload text) 4 none ("invalid payload: " ++ text)
  | read {path cause} : Shows (.read path cause) 5 none
      ("failed to read " ++ path.text ++ ": " ++ cause.message)
  | write {path cause} : Shows (.write path cause) 5 none
      ("failed to write " ++ path.text ++ ": " ++ cause.message)
  | restore {path cause} : Shows (.restore path cause) 5 none
      ("failed to restore " ++ path.text ++ ": " ++ cause.message ++
        "; the file may still contain substituted constants")
  | io {cause} : Shows (.io cause) 5 none ("IO error: " ++ cause.message)
  | stage {target reached cause status stage text} : Shows cause status stage text →
      Shows (.stage target reached cause) status (some reached)
        (reached.name ++ " stage failed for " ++ target ++ ": " ++ text)

namespace Error

lemma shows (e : Error) : e.Shows e.exitCode e.stage? e.message := by
  induction e with
  | externalTool tool status stderr =>
    by_cases h : status = 0
    · subst h
      exact .zeroStatus
    · rw [exitCode, if_neg h]
      exact .externalTool h
  | stage target reached cause ih => exact .stage ih
  | config => exact .config
  | unknownTarget => exact .unknownTarget
  | toolchain => exact .toolchain
  | extraction => exact .extraction
  | payload => exact .payload
  | read => exact .read
  | write => exact .write
  | restore => exact .restore
  | io => exact .io

variable {e : Error} {status : Int} {stage : Option Stage} {text : String}

lemma Shows.eq (h : e.Shows status stage text) :
    status = e.exitCode ∧ stage = e.stage? ∧ text = e.message := by
  induction h with
  | externalTool hstatus => exact ⟨(if_neg hstatus).symm, rfl, rfl⟩
  | @stage target reached cause status stage text _ ih =>
    obtain ⟨hstatus, _, htext⟩ := ih
    exact ⟨hstatus, rfl,
      congrArg (reached.name ++ " stage failed for " ++ target ++ ": " ++ ·) htext⟩
  | _ => exact ⟨rfl, rfl, rfl⟩

lemma Shows.ne_zero (h : e.Shows status stage text) : status ≠ 0 := by
  induction h with
  | externalTool hstatus => exact hstatus
  | stage _ ih => exact ih
  | _ => decide

lemma exitCode_ne_zero (e : Error) : e.exitCode ≠ 0 := e.shows.ne_zero

end Error

namespace Batch

variable {name : String} {result : Except Error (Option Path)} {o : TargetOutcome}

/-- The outcome of a job with a result. What the job ran into is shown there. -/
inductive Becomes (name : String) : Except Error (Option Path) → TargetOutcome → Prop
  | succeeded {artifact} : Becomes name (.ok artifact) ⟨name, 0, none, none, artifact⟩
  | failed {e status stage text} : e.Shows status stage text →
      Becomes name (.error e) ⟨name, status, stage, some text, none⟩

lemma becomes_outcome (name : String) (result : Except Error (Option Path)) :
    Becomes name result (outcome name result) := by
  cases result with
  | error e => exact .failed e.shows
  | ok artifact => exact .succeeded

lemma Becomes.eq (h : Becomes name result o) : o = outcome name result := by
  cases h with
  | succeeded => rfl
  | failed hshows =>
    obtain ⟨rfl, rfl, rfl⟩ := hshows.eq
    rfl

end Batch

end DeployForge
