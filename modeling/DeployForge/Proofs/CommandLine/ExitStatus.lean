import DeployForge.CommandLine.Session
import DeployForge.Proofs.Batch.Reports

/-!
The exit code of the program: zero if every target succeeded, and otherwise what the first failure
says, as far as an exit code can say it.
-/

namespace DeployForge.CommandLine

section Endings

variable (launch : Launcher) (environment : Variables) (invocation : Invocation) (d : Disk)

def opening (action : Action) (root : Path) : Console :=
  Console.header action root ⟨(environment.value? "NO_COLOR").isNone, ""⟩

structure Loads (request : BatchRequest) (root : Path) (project : Project) : Prop where
  built : invocation.request = .ok request
  found : canonical d ⟨invocation.project⟩ = .ok root
  loaded : Project.load environment root d = .ok project

inductive Succeeds : Prop
  | intro {request root project report site} : Loads environment invocation d request root project →
      Batch.run (bench launch environment project root) request
        ⟨d, opening environment request.action root⟩ = (.ok report, site) →
      (∀ o ∈ report.outcomes, o.isSuccess) → Succeeds

/-- The status of an error that the library returned, or else of the first target that failed. -/
inductive FailsWith : Int → Prop
  | unloaded {request root e} : invocation.request = .ok request →
      canonical d ⟨invocation.project⟩ = .ok root → Project.load environment root d = .error e →
      FailsWith e.exitCode
  | aborted {request root project e site} : Loads environment invocation d request root project →
      Batch.run (bench launch environment project root) request
        ⟨d, opening environment request.action root⟩ = (.error e, site) → FailsWith e.exitCode
  | failed {request root project report site before failed rest} :
      Loads environment invocation d request root project →
      Batch.run (bench launch environment project root) request
        ⟨d, opening environment request.action root⟩ = (.ok report, site) →
      report.outcomes = before ++ failed :: rest → (∀ o ∈ before, o.isSuccess) →
      failed.isSuccess = false → FailsWith failed.status

inductive Unstarted : Prop
  | unbuilt {text} : invocation.request = .error text → Unstarted
  | astray {request e} : invocation.request = .ok request →
      canonical d ⟨invocation.project⟩ = .error e → Unstarted

structure Exits (code : ℕ) : Prop where
  zero : code = 0 ↔ Succeeds launch environment invocation d
  kept : ∀ status, FailsWith launch environment invocation d status →
    1 ≤ status → status ≤ 255 → (code : Int) = status
  narrowed : ∀ status, FailsWith launch environment invocation d status →
    ¬ (1 ≤ status ∧ status ≤ 255) → code = 1
  unstarted : Unstarted invocation d → code = 1
  ends : Succeeds launch environment invocation d ∨
    (∃ status, FailsWith launch environment invocation d status) ∨ Unstarted invocation d

end Endings

section Codes

variable {status : Int}

lemma exitCode_of_mem (h : 1 ≤ status) (h' : status ≤ 255) : (exitCode status : Int) = status := by
  rw [exitCode, if_neg (by omega), if_pos (by omega)]
  omega

lemma exitCode_of_notMem (hne : status ≠ 0) (h : ¬ (1 ≤ status ∧ status ≤ 255)) :
    exitCode status = 1 := by
  rw [exitCode, if_neg hne, if_neg (by omega)]

lemma exitCode_ne_zero (h : status ≠ 0) : exitCode status ≠ 0 := by
  by_cases hmem : 1 ≤ status ∧ status ≤ 255
  · have hcode := exitCode_of_mem hmem.1 hmem.2
    omega
  · rw [exitCode_of_notMem h hmem]
    decide

end Codes

variable {launch : Launcher} {environment : Variables} {invocation : Invocation} {d : Disk}
  {args : List String}

lemma FailsWith.ne_zero {status : Int}
    (h : FailsWith launch environment invocation d status) : status ≠ 0 := by
  cases h with
  | unloaded => exact Error.exitCode_ne_zero _
  | aborted => exact Error.exitCode_ne_zero _
  | failed _ _ _ _ hfailed => simpa [TargetOutcome.isSuccess] using hfailed

lemma exists_first_failure {outcomes : List TargetOutcome} (h : ¬ ∀ o ∈ outcomes, o.isSuccess) :
    ∃ before failed rest, outcomes = before ++ failed :: rest ∧ (∀ o ∈ before, o.isSuccess) ∧
      failed.isSuccess = false := by
  cases hfind : outcomes.find? (!·.isSuccess) with
  | none => exact absurd (by simpa using hfind) h
  | some failed =>
    obtain ⟨hfailed, before, rest, hsplit, hbefore⟩ := List.find?_eq_some_iff_append.mp hfind
    exact ⟨before, failed, rest, hsplit, by simpa using hbefore, by simpa using hfailed⟩

variable (launch environment invocation d) in
lemma ends : Succeeds launch environment invocation d ∨
    (∃ status, FailsWith launch environment invocation d status) ∨ Unstarted invocation d := by
  cases hrequest : invocation.request with
  | error text => exact .inr (.inr (.unbuilt hrequest))
  | ok request =>
    cases hroot : canonical d ⟨invocation.project⟩ with
    | error e => exact .inr (.inr (.astray hrequest hroot))
    | ok root =>
      cases hproject : Project.load environment root d with
      | error e => exact .inr (.inl ⟨_, .unloaded hrequest hroot hproject⟩)
      | ok project =>
        have hloads : Loads environment invocation d request root project :=
          ⟨hrequest, hroot, hproject⟩
        rcases hrun : Batch.run (bench launch environment project root) request
          ⟨d, opening environment request.action root⟩ with ⟨e | report, site⟩
        · exact .inr (.inl ⟨_, .aborted hloads hrun⟩)
        · by_cases hall : ∀ o ∈ report.outcomes, o.isSuccess
          · exact .inl (.intro hloads hrun hall)
          · obtain ⟨before, failed, rest, hsplit, hbefore, hfailed⟩ := exists_first_failure hall
            exact .inr (.inl ⟨_, .failed hloads hrun hsplit hbefore hfailed⟩)

section Reading

variable (hread : Invocation.read args = .ok invocation)

include hread

lemma code_of_unstarted (h : Unstarted invocation d) :
    (runWith launch environment args d).1.code = 1 := by
  cases h with
  | unbuilt hrequest =>
    rw [runWith, hread]
    simp only [hrequest]
    rfl
  | astray hrequest hroot =>
    rw [runWith, hread]
    simp only [hrequest, hroot]
    rfl

lemma runWith_of_root {request : BatchRequest} {root : Path}
    (hrequest : invocation.request = .ok request)
    (hroot : canonical d ⟨invocation.project⟩ = .ok root) :
    runWith launch environment args d = execute launch environment root request d
      ⟨(environment.value? "NO_COLOR").isNone, ""⟩ := by
  rw [runWith, hread]
  simp only [hrequest, hroot]

lemma code_of_loads {request : BatchRequest} {root : Path} {project : Project}
    (h : Loads environment invocation d request root project) :
    (runWith launch environment args d).1.code =
      match (Batch.run (bench launch environment project root) request
        ⟨d, opening environment request.action root⟩).1 with
      | .error e => exitCode e.exitCode
      | .ok report => exitCode report.status := by
  rw [runWith_of_root hread h.built h.found, execute, h.loaded]
  simp only [opening]
  rcases Batch.run (bench launch environment project root) request
    ⟨d, Console.header request.action root ⟨(environment.value? "NO_COLOR").isNone, ""⟩⟩ with
    ⟨e | report, site⟩
  · rfl
  · rfl

lemma code_of_succeeds (h : Succeeds launch environment invocation d) :
    (runWith launch environment args d).1.code = 0 := by
  cases h with
  | intro hloads hrun hall =>
    rw [code_of_loads hread hloads, hrun]
    simp only [BatchReport.status_eq_zero_iff.mpr hall]
    rfl

lemma code_of_failsWith {status : Int} (h : FailsWith launch environment invocation d status) :
    (runWith launch environment args d).1.code = exitCode status := by
  cases h with
  | unloaded hrequest hroot hproject =>
    rw [runWith_of_root hread hrequest hroot, execute, hproject]
    rfl
  | aborted hloads hrun => rw [code_of_loads hread hloads, hrun]
  | failed hloads hrun hsplit hbefore hfailed =>
    rw [code_of_loads hread hloads, hrun]
    simp only [BatchReport.status_eq_first hsplit hbefore hfailed]

lemma exits : Exits launch environment invocation d
    (runWith launch environment args d).1.code where
  zero := by
    refine ⟨fun hzero => ?_, code_of_succeeds hread⟩
    rcases ends launch environment invocation d with h | ⟨status, h⟩ | h
    · exact h
    · rw [code_of_failsWith hread h] at hzero
      exact absurd hzero (exitCode_ne_zero h.ne_zero)
    · rw [code_of_unstarted hread h] at hzero
      cases hzero
  kept status h hlow hhigh := by rw [code_of_failsWith hread h, exitCode_of_mem hlow hhigh]
  narrowed status h hout := by rw [code_of_failsWith hread h, exitCode_of_notMem h.ne_zero hout]
  unstarted := code_of_unstarted hread
  ends := ends launch environment invocation d

end Reading

/-- A report says truly how its targets ended, whatever the tools did, and so does the exit code of
a command line that was understood. -/
theorem exit_status_true :
    (∀ (σ : Type) (bench : Bench σ) (request : BatchRequest) (site final : Site σ)
      (report : BatchReport), Batch.run bench request site = (.ok report, final) →
        Batch.Truthful bench request ((Batch.run bench.logged request).log site) report) ∧
    ∀ (launch : Launcher) (environment : Variables) (args : List String)
      (invocation : Invocation) (d : Disk), Invocation.read args = .ok invocation →
        Exits launch environment invocation d (runWith launch environment args d).1.code :=
  ⟨fun _ _ _ _ _ _ h => Batch.truthful_of_run h, fun _ _ _ _ _ h => exits h⟩

/-- Whoever runs the tools here reports a stage, as if they had been run for a deploy function. -/
def relay {σ : Type} : ToolRunner σ := fun _ _ _ site =>
  (.error (.stage "Offer" .compiled (.toolchain "npx not found in PATH")), site)

def relaying : Bench Unit where
  project := .default
  environment := []
  paths := {}
  tools := { run := relay, sandbox := fun _ _ _ site => (.ok "", site), notify := fun _ _ _ => () }

def buildOffer : BatchRequest := ⟨.build, .named "Offer", {}⟩

def offering : Invocation := ⟨.build, { words := ["Offer"] }, "."⟩

def withConstants : Disk where
  tree := ⟨[(["contracts"], .directory), (["contracts", "imports"], .directory),
    (["contracts", "imports", "constants.tolk"], .file .empty false)]⟩

lemma run_relaying :
    ∃ report final, Batch.run relaying buildOffer ⟨withConstants, ()⟩ = (.ok report, final) ∧
      report.outcomes.map (fun o => (o.status, o.stage)) = [(127, some .compiled)] := by
  have hstages : ((Batch.run relaying buildOffer ⟨withConstants, ()⟩).1.map fun report =>
      report.outcomes.map fun o => (o.status, o.stage)).toOption =
        some [(127, some .compiled)] := by
    decide +kernel
  rcases hrun : Batch.run relaying buildOffer ⟨withConstants, ()⟩ with ⟨result, final⟩
  rw [hrun] at hstages
  obtain ⟨report, rfl, hmap⟩ := map_eq_ok.mp (toOption_eq_some.mp hstages)
  exact ⟨report, final, rfl, hmap⟩

theorem exit_status_true_relaying :
    ∃ report final, Batch.run relaying buildOffer ⟨withConstants, ()⟩ = (.ok report, final) ∧
      report.outcomes.map (fun o => (o.status, o.stage)) = [(127, some .compiled)] ∧
      Batch.Truthful relaying buildOffer
        ((Batch.run relaying.logged buildOffer).log ⟨withConstants, ()⟩) report ∧
      Invocation.read ["build", "Offer"] = .ok offering ∧
      (runWith (fun _ => relay) [] ["build", "Offer"] withConstants).1.code = 127 ∧
      Exits (fun _ => relay) [] offering withConstants
        (runWith (fun _ => relay) [] ["build", "Offer"] withConstants).1.code := by
  obtain ⟨report, final, hrun, hstages⟩ := run_relaying
  have hread : Invocation.read ["build", "Offer"] = .ok offering := rfl
  have htruthful := exit_status_true.1 Unit relaying buildOffer _ _ report hrun
  have hexits := exit_status_true.2 (fun _ => relay) [] ["build", "Offer"] offering withConstants hread
  have hcode : (runWith (fun _ => relay) [] ["build", "Offer"] withConstants).1.code = 127 := by
    decide +kernel
  exact ⟨report, final, hrun, hstages, htruthful, hread, hcode, hexits⟩

theorem not_stage_only_of_deployFunctions :
    ¬ ∀ (σ : Type) (bench : Bench σ) (request : BatchRequest) (site final : Site σ)
      (report : BatchReport), Batch.run bench request site = (.ok report, final) →
        ∀ o ∈ report.outcomes, o.stage.isSome →
          request.action = .deployFunctions ∧ o.status ≠ 0 := by
  intro h
  obtain ⟨report, final, hrun, hstages⟩ := run_relaying
  obtain ⟨o, ho, hstage⟩ : ∃ o ∈ report.outcomes, (o.status, o.stage) = (127, some .compiled) :=
    List.mem_map.mp (hstages ▸ List.mem_singleton.mpr rfl)
  have hsome : o.stage.isSome := by rw [(Prod.mk.inj hstage).2]; rfl
  obtain ⟨haction, _⟩ := h Unit relaying buildOffer _ _ report hrun o ho hsome
  cases haction

end DeployForge.CommandLine
