import DeployForge.Bench
import DeployForge.Proofs.Outcome

namespace DeployForge

variable {σ α β : Type}

structure Call (α : Type) where
  before : Disk
  result : Except Error α
  after : Disk

structure ToolCall extends Call ToolOutput where
  command : ToolCommand
  args : List String
  mode : OutputMode

def ToolCall.Succeeds (call : ToolCall) : Prop :=
  ∃ output, call.result = .ok output ∧ output.status = 0

structure SandboxCall extends Call String where
  program : Program
  getter : String
  value : ℕ

inductive Entry where
  | told (event : Event) (seen : Disk)
  | tool (call : ToolCall)
  | sandbox (call : SandboxCall)

abbrev Log := List Entry

def Entry.isCall : Entry → Bool
  | told _ _ => false
  | tool _ | sandbox _ => true

def Log.calls (log : Log) : Log := log.filter Entry.isCall

def Site.logging (site : Site σ) (log : Log) : Site (σ × Log) := ⟨site.disk, site.outside, log⟩

def Work.logged (w : Work σ α) (entry : Call α → Entry) : Work (σ × Log) α := fun site =>
  match w ⟨site.disk, site.outside.1⟩ with
  | (result, after) =>
    (result, after.logging (site.outside.2 ++ [entry ⟨site.disk, result, after.disk⟩]))

namespace Bench

def logged (bench : Bench σ) : Bench (σ × Log) where
  project := bench.project
  environment := bench.environment
  paths := bench.paths
  tools :=
    { run := fun command args mode =>
        (bench.tools.run command args mode).logged fun call => .tool ⟨call, command, args, mode⟩
      sandbox := fun program getter value =>
        (bench.tools.sandbox program getter value).logged
          fun call => .sandbox ⟨call, program, getter, value⟩
      notify := fun event disk outside =>
        (bench.tools.notify event disk outside.1, outside.2 ++ [.told event disk]) }

end Bench

namespace Bench

variable (bench : Bench σ)

/-- The tools of `bench` give this call, in some state of what is outside. -/
def Gives (call : ToolCall) : Prop :=
  ∃ outside outside', bench.tools.run call.command call.args call.mode ⟨call.before, outside⟩ =
    (call.result, ⟨call.after, outside'⟩)

lemma run_eq_logged (command : ToolCommand) (args : List String) (mode : OutputMode) :
    bench.logged.tools.run command args mode =
      (bench.tools.run command args mode).logged fun call => .tool ⟨call, command, args, mode⟩ :=
  rfl

lemma sandbox_eq_logged (program : Program) (getter : String) (value : ℕ) :
    bench.logged.tools.sandbox program getter value =
      (bench.tools.sandbox program getter value).logged
        fun call => .sandbox ⟨call, program, getter, value⟩ :=
  rfl

lemma run_logged (command : ToolCommand) (args : List String) (mode : OutputMode)
    (site : Site (σ × Log)) : ∃ (call : ToolCall) (outside : σ),
      call.before = site.disk ∧ call.command = command ∧ call.args = args ∧ call.mode = mode ∧
      bench.Gives call ∧ bench.logged.tools.run command args mode site =
        (call.result, ⟨call.after, outside, site.outside.2 ++ [.tool call]⟩) := by
  rcases hrun : bench.tools.run command args mode ⟨site.disk, site.outside.1⟩ with ⟨result, after⟩
  refine ⟨⟨⟨site.disk, result, after.disk⟩, command, args, mode⟩, after.outside, rfl, rfl, rfl, rfl,
    ⟨_, _, hrun⟩, ?_⟩
  rw [run_eq_logged, Work.logged, hrun]
  rfl

lemma check_eq_ok {output output' : ToolOutput} {command : ToolCommand} :
    output.check command = .ok output' ↔ output.status = 0 ∧ output = output' := by
  rw [ToolOutput.check, ToolOutput.isSuccess]
  split
  · next h => simpa using fun _ => of_decide_eq_true h
  · next h => simpa using fun hstatus => absurd hstatus (by simpa using h)

lemma runChecked_logged (command : ToolCommand) (args : List String) (mode : OutputMode)
    (site : Site (σ × Log)) : ∃ (call : ToolCall) (outside : σ) (result : Except Error ToolOutput),
      call.before = site.disk ∧ call.command = command ∧ call.args = args ∧ call.mode = mode ∧
      bench.Gives call ∧ bench.logged.runChecked command args mode site =
        (result, ⟨call.after, outside, site.outside.2 ++ [.tool call]⟩) ∧
      result = call.result >>= (·.check command) ∧
      ((∃ output, result = .ok output) ↔ call.Succeeds) := by
  obtain ⟨call, outside, hbefore, hcommand, hargs, hmode, hgives, hrun⟩ :=
    bench.run_logged command args mode site
  refine ⟨call, outside, call.result >>= (·.check command), hbefore, hcommand, hargs, hmode, hgives,
    ?_, rfl, ?_⟩
  · rw [runChecked]
    cases hresult : call.result with
    | error e => exact Work.bind_of_error (hresult ▸ hrun) _
    | ok output => exact (Work.bind_of_ok (hresult ▸ hrun) _).trans (Work.lift_apply _ _)
  · simp only [bind_eq_ok, check_eq_ok, ToolCall.Succeeds]
    exact ⟨fun ⟨_, output, h, hstatus, _⟩ => ⟨output, h, hstatus⟩,
      fun ⟨output, h, hstatus⟩ => ⟨output, output, h, hstatus, rfl⟩⟩

lemma sandbox_logged (program : Program) (getter : String) (value : ℕ)
    (site : Site (σ × Log)) : ∃ (call : SandboxCall) (outside : σ),
      call.before = site.disk ∧ call.program = program ∧ call.getter = getter ∧
      call.value = value ∧
      bench.logged.tools.sandbox program getter value site =
        (call.result, ⟨call.after, outside, site.outside.2 ++ [.sandbox call]⟩) := by
  rcases hrun : bench.tools.sandbox program getter value ⟨site.disk, site.outside.1⟩ with
    ⟨result, after⟩
  refine ⟨⟨⟨site.disk, result, after.disk⟩, program, getter, value⟩, after.outside, rfl, rfl, rfl,
    rfl, ?_⟩
  rw [sandbox_eq_logged, Work.logged, hrun]
  rfl

end Bench

end DeployForge
