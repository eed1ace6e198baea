import DeployForge.Shell.Builtin.Variables
import DeployForge.Shell.Signal

namespace DeployForge.Shell.Builtin

open Act

def exit (args : List Octets) : Act Nat := do
  match args with
  | s :: _ => setStatus (← number s)
  | [] =>
    match (← get).kept with
    | some status => setStatus status
    | none => pure ()
  throw .exit

def return_ (args : List Octets) : Act Nat := do
  match args with
  | s :: _ => setStatus (← number s)
  | [] => pure ()
  throw .returned

def skip (stop : Nat → Stop) (args : List Octets) : Act Nat := do
  let n ← match args with
    | s :: _ => number s
    | [] => pure 1
  if n = 0 then
    match args with
    | s :: _ => fail ("Illegal number: ".toList ++ s)
    | [] => pure ()
  let depth := (← get).loopDepth
  if depth = 0 then return 0
  setStatus 0
  throw (stop (min n depth))

def logicalPath (from_ p : Octets) : Octets :=
  let isAbsolute := p.head? = some '/'
  let start := if isAbsolute then [] else (Text.splitAt '/' from_).filter (!·.isEmpty)
  let names := (Text.splitAt '/' p).foldl (fun done name =>
    if name.isEmpty || name = ['.'] then done
    else if name = ['.', '.'] then done.dropLast
    else done ++ [name]) start
  '/' :: Octets.join ['/'] names

def storeDirectory (directory : Octets) (location : Location) : Act Unit := do
  let exported (name value : Octets) : Act Unit := do
    assign name value
    modify fun m => m.setVariable name { (m.binding? name).getD {} with isExported := true }
  exported "OLDPWD".toList (← get).directory
  modify fun m => { m with directory, storage := { m.storage with place := location } }
  exported "PWD".toList directory

def enter (isPhysical : Bool) (p : Octets) : Act Bool := do
  let m ← get
  let target := if isPhysical then p else logicalPath m.directory p
  match m.storage.status true p, m.storage.status true target with
  | .ok (l, .directory), .ok (k, .directory) =>
    let l := if isPhysical then l else k
    storeDirectory (if isPhysical then Storage.pathOf l else target) l
    return true
  | _, _ => return false

def cd (args : List Octets) : Act Nat := do
  let (letters, words) ← lettersFrom "LP" args
  let isPhysical := letters.getLast? = some 'P'
  let m ← get
  let goesBack := words.head? = some ['-']
  let dest :=
    if goesBack then (m.value? "OLDPWD".toList).getD []
    else (words.head?.or (m.value? "HOME".toList)).getD []
  let first := dest.takeWhile (· ≠ '/')
  let isFixed := dest.head? = some '/' || first = ['.'] || first = ['.', '.']
  let roots := if isFixed then [] else
    (Text.splitAt ':' ((m.value? "CDPATH".toList).getD [])).filter (!·.isEmpty)
  let candidates := roots.map fun root => root ++ '/' :: dest
  let found? := candidates.find? m.storage.isDirectory
  let ok ← enter isPhysical (found?.getD (if dest.isEmpty then ['.'] else dest))
  if !ok then fail ("can't cd to ".toList ++ dest)
  if goesBack || found?.isSome then putLine (← get).directory
  return 0

def pwd (args : List Octets) : Act Nat := do
  let (letters, _) ← lettersFrom "LP" args
  let m ← get
  putLine (if letters.getLast? = some 'P' then Storage.pathOf m.storage.place else m.directory)
  return 0

def listSignal (s : Octets) : Act Unit := do
  let n ← number s
  let n := if 128 < n then n - 128 else n
  match Signal.names[n]? with
  | some name => if n = 0 then putText "0\n" else putText (name ++ "\n")
  | none => fail ("invalid signal number or exit status: ".toList ++ s)

def jobOf (s : Octets) : Act Nat := do
  match (← get).job? s with
  | some process => return process
  | none => fail ("No such job: ".toList ++ s)

def sendTo (signal : Nat) (targets : List Octets) : Act Nat := do
  let mut status := 0
  for target in targets do
    let isGroup := target.head? = some '-'
    let n ← if target.head? = some '%' then jobOf target
      else number (if isGroup then target.tail else target)
    if !(← sendSignal signal n) then
      warn "No such process\n".toList
      status := 1
  return status

def kill (args : List Octets) : Act Nat := do
  let usage {α : Type} : Act α :=
    failText ("Usage: kill [-s sigspec | -signum | -sigspec] [pid | job]... or\n"
      ++ "kill -l [exitstatus]")
  let decode (s : Octets) : Act Nat :=
    match Signal.ofOctets? s with
    | some n => return n
    | none => fail ("invalid signal number or name: ".toList ++ s)
  match args with
  | [] => usage
  | ['-', 'l'] :: rest | ['-', 'L'] :: rest =>
    if rest.isEmpty then
      putText "0\n"
      for name in Signal.names.drop 1 do putText (name ++ "\n")
    else
      for s in rest do listSignal s
    return 0
  | ['-', 's'] :: s :: targets => sendTo (← decode s) targets
  | ['-', 's'] :: [] => failText "No arg for -s option"
  | ['-', '-'] :: targets => sendTo 15 targets
  | ('-' :: c :: cs) :: targets =>
    match Signal.ofOctets? (c :: cs) with
    | some n => if targets.isEmpty then usage else sendTo n targets
    | none => fail ("Illegal option -".toList ++ [c])
  | targets => sendTo 15 targets

def trap (args : List Octets) : Act Nat := do
  let (_, args) ← lettersFrom "" args
  let set_ (action : Option Octets) (conditions : List Octets) : Act Nat := do
    for c in conditions do
      match Signal.ofOctets? c with
      | none =>
        complainOctets ("trap: ".toList ++ c ++ ": bad trap".toList)
        return 1
      | some n => modify fun m =>
        let traps := m.traps.filter (·.1 ≠ n)
        { m with traps := (action.map fun a => (n, a)).toList ++ traps }
    return 0
  match args with
  | [] =>
    let m ← get
    for (name, n) in Signal.names.zipIdx do
      match m.traps.lookup n with
      | some action => putLine ("trap -- ".toList ++ quoted action ++ ' ' :: name.toList)
      | none => pure ()
    return 0
  | [c] => set_ none [c]
  | action :: conditions =>
    if (Signal.ofOctets? action).isSome then set_ none (action :: conditions)
    else set_ (if action = ['-'] then none else some action) conditions

def umaskText (mask : Nat) : Octets :=
  let part (name : Char) (shift : Nat) : Octets :=
    let bits := 7 - mask / shift % 8
    name :: '=' :: (if bits / 4 % 2 = 1 then ['r'] else []) ++ (if bits / 2 % 2 = 1 then ['w'] else [])
      ++ (if bits % 2 = 1 then ['x'] else [])
  part 'u' 64 ++ [','] ++ part 'g' 8 ++ [','] ++ part 'o' 1

def changeMode (isDirectory : Bool) (mask : Nat) (bits : Nat) (s : Octets) : Option Nat :=
  (Text.splitAt ',' s).foldlM (fun bits clause =>
    let who := clause.takeWhile fun c => "ugoa".toList.contains c
    let all := who.isEmpty || who.contains 'a'
    let groups := (if all || who.contains 'u' then 448 else 0)
      ||| (if all || who.contains 'g' then 56 else 0) ||| (if all || who.contains 'o' then 7 else 0)
    let groups := if who.isEmpty then groups &&& (511 - mask) else groups
    let rec go : Nat → Nat → Octets → Option Nat
      | 0, _, _ => none
      | _, bits, [] => some bits
      | fuel + 1, bits, sign :: rest =>
        if sign = '+' || sign = '-' || sign = '=' then
          let letters := rest.takeWhile fun c => "rwxXstugo".toList.contains c
          let copied (shift : Nat) : Nat := (bits / shift % 8) * 73
          let value := letters.foldl (fun v c => v ||| match c with
            | 'r' => 292
            | 'w' => 146
            | 'x' => 73
            | 'X' => if isDirectory || bits &&& 73 ≠ 0 then 73 else 0
            | 'u' => copied 64
            | 'g' => copied 8
            | 'o' => copied 1
            | _ => 0) 0
          let special := letters.foldl (fun v c => v ||| match c with
            | 's' => (if all || who.contains 'u' then 2048 else 0)
                ||| (if all || who.contains 'g' then 1024 else 0)
            | 't' => 512
            | _ => 0) 0
          let value := value &&& groups ||| special
          let bits := match sign with
            | '+' => bits ||| value
            | '-' => bits &&& (4095 - value)
            | _ => bits &&& (4095 - groups) ||| value
          go fuel bits (rest.drop letters.length)
        else none
    let rest := clause.drop who.length
    if rest.isEmpty then none else go (rest.length + 1) bits rest) bits

def umask (args : List Octets) : Act Nat := do
  let (letters, words) ← lettersFrom "S" args
  let m ← get
  let mask := m.storage.umask
  match words with
  | [] =>
    if letters.contains 'S' then putLine (umaskText mask)
    else putLine (Octets.inBase 8 4 mask)
    return 0
  | s :: _ =>
    if (s.head?.map Char.isDigit).getD false then
      if s.all isOctal then
        set { m with storage := { m.storage with umask := Octets.foldDigits 8 s % 512 } }
        return 0
      else fail ("Illegal number: ".toList ++ s)
    else
      match changeMode false 0 (511 - mask) s with
      | some bits =>
        set { m with storage := { m.storage with umask := 511 - bits % 512 } }
        return 0
      | none => fail ("Illegal mode: ".toList ++ s)

def alias_ (args : List Octets) : Act Nat := do
  let m ← get
  let show_ (name text : Octets) : Act Unit := putLine (name ++ '=' :: quoted text)
  if args.isEmpty then
    for (name, text) in m.aliases.mergeSort fun (a, _) (b, _) => Octets.atMost a b do
      show_ name text
    return 0
  let mut status := 0
  for arg in args do
    match Octets.cut? '=' arg.tail with
    | some (rest, text) =>
      let name := arg.take 1 ++ rest
      modify fun m => { m with aliases := (name, text) :: m.aliases.filter (·.1 ≠ name) }
    | none =>
      match m.aliases.lookup arg with
      | some text => show_ arg text
      | none =>
        complainOctets ("alias: ".toList ++ arg ++ " not found".toList)
        status := 1
  return status

def unalias (args : List Octets) : Act Nat := do
  let (letters, names) ← lettersFrom "a" args
  if letters.contains 'a' then
    modify fun m => { m with aliases := [] }
    return 0
  let mut status := 0
  for name in names do
    let m ← get
    if (m.aliases.lookup name).isSome then
      set { m with aliases := m.aliases.filter (·.1 ≠ name) }
    else
      complainOctets ("unalias: ".toList ++ name ++ " not found".toList)
      status := 1
  return status

def times (_ : List Octets) : Act Nat := do
  putText "0m0.000000s 0m0.000000s\n0m0.000000s 0m0.000000s\n"
  return 0

def limits : List (Char × String × String) := [
  ('t', "time(seconds)", "unlimited"), ('f', "file(blocks)", "unlimited"),
  ('d', "data(kbytes)", "unlimited"), ('s', "stack(kbytes)", "8192"),
  ('c', "coredump(blocks)", "0"), ('m', "memory(kbytes)", "unlimited"),
  ('l', "locked memory(kbytes)", "8192"), ('p', "process", "unlimited"), ('n', "nofiles", "1024"),
  ('v', "vmemory(kbytes)", "unlimited"), ('w', "locks", "unlimited"), ('r', "rtprio", "0")]

/-- Shows limits. What is to be a limit is not kept to. -/
def ulimit (args : List Octets) : Act Nat := do
  let (letters, words) ← lettersFrom "HSatfdscmlpnvwr" args
  if letters.contains 'a' then
    for (_, unit, amount) in limits do
      putLine (Octets.padRight ' ' 20 unit.toList ++ ' ' :: amount.toList)
    return 0
  let letter := ((letters.filter fun c => !"HS".toList.contains c).getLast?).getD 'f'
  match words with
  | _ :: _ :: _ => failText "too many arguments"
  | [s] =>
    if s ≠ "unlimited".toList && !s.all Char.isDigit then failText "bad number"
    return 0
  | [] =>
    putText (((limits.lookup letter).map (·.2)).getD "unlimited" ++ "\n")
    return 0

def jobs (_ : List Octets) : Act Nat := do
  let m ← get
  let count := m.children.length
  for (process, i) in m.children.reverse.zipIdx do
    match m.jobs.find? (·.process = process) with
    | some job =>
      let sign := if i + 1 = count then '+' else if i + 2 = count then '-' else ' '
      let state := match job.status with
        | none => "Running"
        | some 0 => "Done"
        | some status => "Done(" ++ toString status ++ ")"
      putLine (Octets.padRight ' ' 33 ("[".toList ++ .ofNat (i + 1) ++ "] ".toList ++ [sign, ' ']
        ++ state.toList))
    | none => pure ()
  return 0

def nothing (_ : List Octets) : Act Nat := return 0

def failing (_ : List Octets) : Act Nat := return 1

end DeployForge.Shell.Builtin
