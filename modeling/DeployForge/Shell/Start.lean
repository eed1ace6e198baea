import DeployForge.Shell.Builtin.Variables

namespace DeployForge.Shell.Start

structure Invocation where
  readsCommand : Bool
  words : List Octets

def isOption (word : Octets) : Bool :=
  1 < word.length && word ≠ ['-', '-'] && (word.head? = some '-' || word.head? = some '+')

def asksCommand : List Octets → Bool
  | [] => false
  | word :: rest =>
    isOption word && (word.contains 'c'
      || asksCommand (if word.contains 'o' then rest.drop 1 else rest))
termination_by words => words.length
decreasing_by grind

def invocation (words : List Octets) : Act Invocation := do
  let left ← Builtin.setOptions true (words.length + 1) words
  return { readsCommand := asksCommand words, words := left.getD [] }

def directory (m : Machine) : Octets :=
  let isHere (p : Octets) : Bool :=
    p.head? = some '/' && ((m.storage.status true p).toOption.map (·.1)) = some m.storage.place
  match m.value? "PWD".toList with
  | some p => if isHere p then p else Storage.pathOf m.storage.place
  | none => Storage.pathOf m.storage.place

/-- Variables that every shell sets anew, and those that it sets if they are missing. -/
def fixed (m : Machine) : List (String × Octets) := [
  ("IFS", [' ', '\t', '\n']), ("OPTIND", ['1']), ("PPID", .ofNat m.parentProcess)]

def missing : List (String × String) := [
  ("PS1", "# "), ("PS2", "> "), ("PS4", "+ "),
  ("PATH", "/usr/local/sbin:/usr/local/bin:/usr/sbin:/usr/bin:/sbin:/bin")]

def bindings (m : Machine) : Machine :=
  let directory := directory m
  let m := { m with bindings := m.bindings.filter fun (name, _) => Word.isName name }
  let m := (fixed m).foldl (fun m (name, value) =>
    m.setVariable name.toList { value := some value }) m
  let m := missing.foldl (fun m (name, value) =>
    if (m.binding? name.toList).isSome then m
    else m.setVariable name.toList { value := some value.toList }) m
  { m.setVariable "PWD".toList { value := some directory, isExported := true } with directory }

end DeployForge.Shell.Start
