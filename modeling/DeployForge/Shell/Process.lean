import DeployForge.Shell.Call
import DeployForge.Shell.Duration

namespace DeployForge.Shell

namespace Machine

def forked (m : Machine) : Machine :=
  { m with
    process := m.nextProcess
    nextProcess := m.nextProcess + 1
    parentProcess := m.process
    traps := m.traps.filter (·.2.isEmpty)
    children := []
    kept := none
    isMain := false
    writeFault := none }

def resumed (before m : Machine) : Machine :=
  { m with
    toScope := before.toScope
    storage := { m.storage with place := before.storage.place, umask := before.storage.umask }
    status := before.status
    substituted := before.substituted
    writeFault := before.writeFault
    pending := m.pending.filter (·.1 ≠ m.process) }

/-- The machine as a program finds it: of the shell it has the variables that are handed on. -/
def bare (m : Machine) (name : Octets) : Machine :=
  let bindings := m.environment.map fun (n, value) =>
    (n, ({ value := some value, isExported := true } : Variable))
  { m with
    toScope := {
      name, bindings
      table := m.table
      traps := m.traps.filter (·.2.isEmpty)
      directory := m.directory
      process := m.process
      parentProcess := m.parentProcess
      root := m.process
      isMain := m.isMain }
    status := 0
    substituted := none
    writeFault := none }

def hasTraps (m : Machine) : Bool := m.traps.any fun (_, action) => !action.isEmpty

end Machine

namespace Job

def delay : Command → Nat
  | .simple _ [] (w :: ws) _ =>
    if Word.plain? w = some "sleep".toList then
      sumOf (ws.map fun w => ((Word.plain? w).bind Duration.read?).getD 0)
    else 0
  | .sequence first _ | .both first _ | .either first _ | .negated first => delay first
  | .nested _ body _ | .redirected _ body _ => delay body
  | .choice test _ _ => delay test
  | _ => 0

/-- The job that comes next among those that are not begun and may begin by a time. -/
def next? (jobs : List Job) (by_ : Nat) : Option Job :=
  jobs.foldl (fun best job =>
    if job.work.isNone || by_ < job.wake then best
    else
      match best with
      | some b => if job.wake < b.wake then some job else best
      | none => some job) none

end Job

namespace Machine

def setJob (m : Machine) (job : Job) : Machine :=
  { m with jobs := m.jobs.map fun j => if j.process = job.process then job else j }

def start (m : Machine) (body : Command) : Machine :=
  let copy := m.forked.openAs 0 { channel := .device .null, isWritable := false }
  let scope := copy.toScope
  let m := m.resumed copy
  let job : Job := {
    process := scope.process
    since := m.now
    wake := m.now + Job.delay body
    work := some (body, scope)
    place := m.storage.place
    umask := m.storage.umask }
  { m with
    jobs := m.jobs ++ [job]
    children := scope.process :: m.children
    lastChild := some scope.process }

end Machine

namespace Act

def tellSignal (e : Ending) : Act Unit :=
  match e.signal with
  | some signal => if signal = 2 || signal = 13 then pure () else complain (Signal.text signal)
  | none => pure ()

end Act

end DeployForge.Shell
