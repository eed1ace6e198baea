import DeployForge.Proofs.Batch.Turns
import DeployForge.Proofs.CommandLine.Reading
import DeployForge.Proofs.Profile

/-!
The network of a script. The script is told of it in its arguments, the contracts by their
constants, and both are told the same.
-/

namespace DeployForge

namespace Batch

variable {σ : Type}

/-- The calls of one tool: none when the constants of `set` cannot be put in, and otherwise one,
which finds them there. -/
inductive CallsWith (bench : Bench σ) (set : ReplacementSet) (args : List String) (d : Disk) :
    Log → Prop
  | unread {cause} : d.readText bench.paths.constants = .error cause →
      CallsWith bench set args d []
  | unwritten {original cause d'} : d.readText bench.paths.constants = .ok original →
      d.writeText bench.paths.constants (set.apply original) = (.error cause, d') →
      CallsWith bench set args d []
  | called {original d'} {call : ToolCall} : d.readText bench.paths.constants = .ok original →
      d.writeText bench.paths.constants (set.apply original) = (.ok (), d') →
      call.before = d' → call.before.readText bench.paths.constants = .ok (set.apply original) →
      call.command = bench.project.tools.blueprint → call.args = args → bench.Gives call →
      CallsWith bench set args d [.tool call]

variable {bench : Bench σ} {request : BatchRequest} {name : String}

lemma Works.exists_call {o : TargetOutcome} {d d' : Disk} {own : Log}
    (h : Works bench request (.contract name) o d own d') : ∃ call : ToolCall,
      own = [.tool call] ∧ call.before = d ∧ call.command = bench.project.tools.blueprint ∧
      call.args = request.toolArguments name ∧ bench.Gives call := by
  cases h with
  | contract hgives hcommand hargs => exact ⟨_, rfl, rfl, hcommand, hargs, hgives⟩

lemma Handles.callsWith {site final : Site σ} {result : Except Error TargetOutcome} {own : Log}
    (h : Handles bench request (.contract name) site result final own) :
    CallsWith bench (request.targetSet bench.project bench.environment name)
      (request.toolArguments name) site.disk own := by
  have hcalled {original : String} {d : Disk}
      (hread : site.disk.readText bench.paths.constants = .ok original)
      (hwrite : site.disk.writeText bench.paths.constants
        (substitute bench request (.contract name) original) = (.ok (), d)) :
      CallsWith bench (request.targetSet bench.project bench.environment name)
        (request.toolArguments name) site.disk
        ((perform bench.logged request (.contract name)).log { site with disk := d }) := by
    obtain ⟨call, hlog, hbefore, hcommand, hargs, hgives⟩ :=
      (works bench request (.contract name) { site with disk := d }).exists_call
    rw [hlog]
    exact .called hread hwrite hbefore (hbefore ▸ Disk.readText_of_writeText hwrite) hcommand hargs
      hgives
  cases h with
  | unread hread => exact .unread hread
  | unwritten hread hwrite _ => exact .unwritten hread hwrite
  | unrolled hread hwrite _ => exact .unwritten hread hwrite
  | unrestored hread hwrite _ _ => exact hcalled hread hwrite
  | settled hread hwrite _ _ _ => exact hcalled hread hwrite

lemma CallsWith.calls_eq {set : ReplacementSet} {args : List String} {d : Disk} {own : Log}
    (h : CallsWith bench set args d own) : own.calls = own := by
  cases h <;> rfl

lemma callsWith_run (h : request.jobs bench.project = .ok [.contract name]) (site : Site σ) :
    CallsWith bench (request.targetSet bench.project bench.environment name)
      (request.toolArguments name) site.disk ((run bench.logged request).log site).calls := by
  obtain ⟨result, final, own, hjob⟩ := exists_handles bench request (.contract name)
    (told bench (.targetStarted name 0 1) site)
  have hcalls := hjob.callsWith
  -- What the observer is told before and behind the job is no call.
  have hlog : ((run bench.logged request).log site).calls = own.calls := by
    rw [log_run_of_ok h]
    cases result with
    | error e =>
      have hnone : Processes bench request 1 0 [] site [] site [] := .nil
      have hstopped : (runJobs bench.logged request 0 1 [.contract name]).log site =
          .told (.targetStarted name 0 1) site.disk :: own :=
        (hnone.stopped hjob).2
      exact (congrArg Log.calls hstopped).trans rfl
    | ok outcome =>
      have hall : Processes bench request 1 0 [.contract name] site [outcome] _ _ := .cons hjob .nil
      exact (congrArg Log.calls hall.runJobs_eq.2).trans (by simp [Log.calls, Entry.isCall])
  rw [hlog, hcalls.calls_eq]
  exact hcalls

end Batch

namespace CommandLine

variable {args own passed : List String} {i : Invocation} {request : BatchRequest} {script : String}

def networkOf (passed : List String) : Profile :=
  if "--testnet" ∈ passed then .testnet else .mainnet

def inserted (own passed : List String) : List String :=
  if Given "testnet" own ∧ "--testnet" ∉ passed then ["--testnet"] else []

structure RunsScript (args own : List String) (i : Invocation) (script : String)
    (request : BatchRequest) : Prop where
  args_eq : args = own ++ i.reading.rest
  words_eq : i.reading.words = [script]
  has_testnet : i.reading.has "testnet" = true ↔ Given "testnet" own
  request_eq : i.request = .ok request
  tool_eq : request.toolArguments script =
    "run" :: script :: (inserted own i.reading.rest ++ i.reading.rest)
  network_eq : request.network = networkOf (inserted own i.reading.rest ++ i.reading.rest)
  constants_eq : ∀ project environment, request.targetSet project environment script =
    project.configured environment (networkOf (inserted own i.reading.rest ++ i.reading.rest))
  jobs_eq : ∀ project, request.jobs project = .ok [.contract script]

lemma testnet_mem_iff : "--testnet" ∈ inserted own passed ++ passed ↔
    Given "testnet" own ∨ "--testnet" ∈ passed := by
  rw [inserted]
  by_cases hpassed : "--testnet" ∈ passed <;> simp [hpassed]

section Requests

variable {options : BatchOptions} (h : options.testnet = true ↔
  Given "testnet" own ∨ "--testnet" ∈ options.extraArgs)

include h

lemma toolArguments_script (script : String) :
    BatchRequest.toolArguments ⟨.run, .named script, options⟩ script =
      "run" :: script :: (inserted own options.extraArgs ++ options.extraArgs) := by
  have hinserted : (options.testnet && !options.extraArgs.contains "--testnet") = true ↔
      Given "testnet" own ∧ "--testnet" ∉ options.extraArgs := by
    by_cases hpassed : "--testnet" ∈ options.extraArgs <;> simp [hpassed, h]
  simp only [BatchRequest.toolArguments, BatchRequest.testnetFlag, hinserted]
  rfl

lemma network_script (script : String) :
    BatchRequest.network ⟨.run, .named script, options⟩ =
      networkOf (inserted own options.extraArgs ++ options.extraArgs) := by
  simp only [BatchRequest.network, networkOf, h, testnet_mem_iff]

end Requests

lemma targetSet_run (hrun : request.action = .run) (script : String) (project : Project)
    (environment : Variables) : request.targetSet project environment script =
      project.configured environment request.network := by
  simp [BatchRequest.targetSet, BatchRequest.baseSet, hrun, Project.replacementSet_eq]

def scriptOptions (r : Reading) : BatchOptions where
  testnet := r.has "testnet" || r.rest.contains BatchRequest.testnetFlag
  gasReport := r.has "gas-report"
  testConstants := r.has "test"
  extraArgs := r.rest

lemma exists_script (hlen : i.reading.words.length ≤ 1)
    (hcomplete : Invocation.isComplete .run i.reading = true) :
    ∃ script, i.reading.words = [script] := by
  have hne : i.reading.words ≠ [] := by
    intro hnone
    simp [Invocation.isComplete, hnone] at hcomplete
  exact List.length_eq_one_iff.mp (Nat.le_antisymm hlen (List.length_pos_iff.mpr hne))

lemma exists_runsScript (h : Invocation.read args = .ok i) (hrun : i.action = .run) :
    ∃ own script request, RunsScript args own i script request := by
  obtain ⟨⟨own, htaken⟩, hcomplete⟩ := exists_taken h
  rw [hrun] at htaken hcomplete
  obtain ⟨script, hwords⟩ := exists_script htaken.words_le hcomplete
  have hall : i.reading.has "all" = false := by
    rw [← Bool.not_eq_true, htaken.has_iff (by decide)]
    rintro (hnone | ⟨hflag, _⟩)
    · cases hnone
    · cases hflag
  have htestnet : i.reading.has "testnet" = true ↔ Given "testnet" own := by
    have hflag : (Grammar.ofAction .run).isFlag "testnet" = true := rfl
    rw [htaken.has_iff (by decide), hflag]
    simp [Reading.has]
  have hrequest : i.request = .ok ⟨.run, .named script, scriptOptions i.reading⟩ := by
    simp [Invocation.request, hrun, hwords, hall, Invocation.selection, scriptOptions]
  have hoptions : (scriptOptions i.reading).testnet = true ↔
      Given "testnet" own ∨ "--testnet" ∈ i.reading.rest := by
    simp [scriptOptions, BatchRequest.testnetFlag, htestnet]
  refine ⟨own, script, _, htaken.args_eq, hwords, htestnet, hrequest,
    toolArguments_script hoptions script, network_script hoptions script, ?_, fun _ => rfl⟩
  intro project environment
  rw [targetSet_run rfl, network_script hoptions]
  rfl

/-- What a script is told of its network and what it finds in the constants agree, however the
command line was put and whatever it passes on. -/
theorem script_network_agrees (h : Invocation.read args = .ok i) (hrun : i.action = .run) :
    ∃ own script request, RunsScript args own i script request ∧
      ∀ (σ : Type) (bench : Bench σ) (site : Site σ),
        Batch.CallsWith bench
          (bench.project.configured bench.environment
            (networkOf (inserted own i.reading.rest ++ i.reading.rest)))
          ("run" :: script :: (inserted own i.reading.rest ++ i.reading.rest)) site.disk
          ((Batch.run bench.logged request).log site).calls := by
  obtain ⟨own, script, request, hscript⟩ := exists_runsScript h hrun
  refine ⟨own, script, request, hscript, fun σ bench site => ?_⟩
  rw [← hscript.constants_eq, ← hscript.tool_eq]
  exact Batch.callsWith_run (hscript.jobs_eq bench.project) site

section Forwarded

/-- The flag comes too late to be read, and is passed on. -/
def late : Invocation where
  action := .run
  reading := { words := ["deployOffer"], rest := ["--tonconnect", "--testnet"] }
  project := "."

theorem script_network_agrees_late :
    Invocation.read ["run", "deployOffer", "--tonconnect", "--testnet"] = .ok late ∧
      late.action = .run ∧
      ∃ own request,
        RunsScript ["run", "deployOffer", "--tonconnect", "--testnet"] own late "deployOffer"
          request ∧
        ∀ (σ : Type) (bench : Bench σ) (site : Site σ),
          Batch.CallsWith bench (bench.project.configured bench.environment .testnet)
            ["run", "deployOffer", "--tonconnect", "--testnet"] site.disk
            ((Batch.run bench.logged request).log site).calls := by
  have hread : Invocation.read ["run", "deployOffer", "--tonconnect", "--testnet"] = .ok late := rfl
  obtain ⟨own, script, request, hscript, hcalls⟩ := script_network_agrees hread rfl
  have hpassed : "--testnet" ∈ late.reading.rest := by decide
  have hinserted : inserted own late.reading.rest = [] := if_neg fun h => h.2 hpassed
  have hnetwork : networkOf (inserted own late.reading.rest ++ late.reading.rest) = .testnet :=
    if_pos (testnet_mem_iff.mpr (.inr hpassed))
  obtain rfl : "deployOffer" = script := (List.cons.inj hscript.words_eq).1
  refine ⟨hread, rfl, own, request, hscript, fun σ bench site => ?_⟩
  have hcalls := hcalls σ bench site
  rwa [hnetwork, hinserted] at hcalls

end Forwarded

end CommandLine

end DeployForge
