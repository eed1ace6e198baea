import DeployForge.Shell.Duration
import DeployForge.Shell.Signal
import DeployForge.Shell.Utility.Making

namespace DeployForge.Shell.Utility

def succeed (_ : Call) : Act Nat := return 0

def failing (_ : Call) : Act Nat := return 1

def sleep (c : Call) : Act Nat := do
  let g ← c.options []
  if g.operands.isEmpty then c.missingOperand
  let spans := g.operands.map fun s => (s, Duration.read? s)
  let bad := spans.filterMap fun (s, span) => if span.isNone then some s else none
  if !bad.isEmpty then
    for s in bad do c.complain ("invalid time interval ".toList ++ Quote.always s)
    c.hint 1
  c.pass (sumOf (spans.map fun (_, span) => span.getD 0))
  return 0

def kill (c : Call) : Act Nat := do
  let readSignal (s : Octets) : Option Nat :=
    Signal.ofOctets? (if Octets.startsWith "SIG".toList (Octets.toUpper s) then s.drop 3 else s)
  let (signal, processes) : Option Nat × List Octets := match c.args with
    | ['-', 's'] :: s :: rest | ['-', 'n'] :: s :: rest => (readSignal s, rest)
    | ['-', '-'] :: rest => (some 15, rest)
    | ('-' :: s) :: rest => (readSignal s, rest)
    | rest => (some 15, rest)
  match signal, c.args.head? with
  | _, some ['-', 'l'] | _, some ['-', 'L'] =>
    let names := ((Signal.names.take 32).drop 1).map String.toList
    Act.putLine (Octets.join [' '] names)
    return 0
  | none, _ => c.failText 1 "unknown signal"
  | some signal, _ =>
    c.each processes fun p => do
      match Octets.nat? p with
      | none =>
        c.complain ("cannot find process \"".toList ++ p ++ ['"'])
        return false
      | some process =>
        if ← Act.sendSignal signal process then return true
        c.complain ("sending signal to ".toList ++ p ++ " failed: No such process".toList)
        return false

end DeployForge.Shell.Utility
