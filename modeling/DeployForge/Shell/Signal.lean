import DeployForge.Shell.Channel

namespace DeployForge.Shell

namespace Signal

def names : List String := [
  "EXIT", "HUP", "INT", "QUIT", "ILL", "TRAP", "ABRT", "BUS", "FPE", "KILL", "USR1", "SEGV", "USR2",
  "PIPE", "ALRM", "TERM", "STKFLT", "CHLD", "CONT", "STOP", "TSTP", "TTIN", "TTOU", "URG", "XCPU",
  "XFSZ", "VTALRM", "PROF", "WINCH", "IO", "PWR", "SYS", "32", "33", "RTMIN", "RTMIN+1", "RTMIN+2",
  "RTMIN+3", "RTMIN+4", "RTMIN+5", "RTMIN+6", "RTMIN+7", "RTMIN+8", "RTMIN+9", "RTMIN+10",
  "RTMIN+11", "RTMIN+12", "RTMIN+13", "RTMIN+14", "RTMIN+15", "RTMAX-14", "RTMAX-13", "RTMAX-12",
  "RTMAX-11", "RTMAX-10", "RTMAX-9", "RTMAX-8", "RTMAX-7", "RTMAX-6", "RTMAX-5", "RTMAX-4",
  "RTMAX-3", "RTMAX-2", "RTMAX-1", "RTMAX"]

def texts : List (Nat × String) := [
  (1, "Hangup"), (2, "Interrupt"), (3, "Quit"), (4, "Illegal instruction"),
  (5, "Trace/breakpoint trap"), (6, "Aborted"), (7, "Bus error"), (8, "Floating point exception"),
  (9, "Killed"), (10, "User defined signal 1"), (11, "Segmentation fault"),
  (12, "User defined signal 2"), (13, "Broken pipe"), (14, "Alarm clock"), (15, "Terminated"),
  (16, "Stack fault"), (17, "Child exited"), (18, "Continued"), (19, "Stopped (signal)"),
  (20, "Stopped"), (21, "Stopped (tty input)"), (22, "Stopped (tty output)"),
  (23, "Urgent I/O condition"), (24, "CPU time limit exceeded"), (25, "File size limit exceeded"),
  (26, "Virtual timer expired"), (27, "Profiling timer expired"), (28, "Window changed"),
  (29, "I/O possible"), (30, "Power failure"), (31, "Bad system call")]

def text (signal : Nat) : String :=
  (texts.lookup signal).getD ("Real-time signal " ++ toString (signal - 34))

/-- The number of a signal that is given by its number or its name, in capitals or not. -/
def ofOctets? (s : Octets) : Option Nat :=
  match Octets.nat? s with
  | some n => if n < 65 then some n else none
  | none => names.findIdx? fun name => name.toList = Octets.toUpper s

def isIgnored (signal : Nat) : Bool := [17, 18, 19, 20, 21, 22, 23, 28].contains signal

end Signal

def Machine.job? (m : Machine) (s : Octets) : Option Nat :=
  match s with
  | ['%'] | ['%', '%'] | ['%', '+'] => m.children.head?
  | ['%', '-'] => m.children[1]?
  | '%' :: n => (Octets.nat? n).bind fun n => if n = 0 then none else m.children.reverse[n - 1]?
  | _ => none

namespace Act

/-- Sends a signal to the process that is running. One that is trapped is left for later. -/
def raise (signal : Nat) : Act Unit := do
  let m ← get
  match m.traps.lookup signal with
  | some [] => pure ()
  | some _ => set { m with pending := m.pending ++ [(m.process, signal)] }
  | none => if Signal.isIgnored signal then pure () else throw (.killed signal)

def sendSignal (signal process : Nat) : Act Bool := do
  let m ← get
  if process = m.process || process = 0 then
    if signal ≠ 0 then raise signal
    return true
  match m.jobs.find? (·.process = process) with
  | some job =>
    if signal ≠ 0 && job.work.isSome && !Signal.isIgnored signal then
      let ended : Job :=
        { job with work := none, status := some (128 + signal), signal := some signal }
      let jobs := m.jobs.map fun (j : Job) => if j.process = process then ended else j
      set { m with jobs }
    return true
  | none =>
    if process = m.parentProcess || process < m.process && 4242 ≤ process then
      if signal ≠ 0 then set { m with pending := m.pending ++ [(process, signal)] }
      return true
    return false

end Act

end DeployForge.Shell
