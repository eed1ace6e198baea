import DeployForge.Shell.Awk.Reading
import DeployForge.Shell.Awk.Run

namespace DeployForge.Shell.Utility

def awkHelp : List String := [
  "",
  "Program:",
  "    The -f option value is the name of a file containing program text.",
  "    If no -f option is given, a \"--\" ends option processing; the following",
  "    parameters are the program text.",
  "",
  "Options:",
  "    -f program-file  Program  text is read from file instead of from the",
  "                     command-line.  Multiple -f options are accepted.",
  "    -F value         sets the field separator, FS, to value.",
  "    -v var=value     assigns value to program variable var.",
  "    --               unambiguous end of options.",
  "",
  "    Implementation-specific options are prefixed with \"-W\".  They can be",
  "    abbreviated:",
  "",
  "    -W version       show version information and exit.",
  "    -W compat        pre-POSIX 2001.",
  "    -W dump          show assembler-like listing of program and exit.",
  "    -W help          show this message and exit.",
  "    -W interactive   set unbuffered output, line-buffered input.",
  "    -W exec file     use file as program as well as last option.",
  "    -W posix         stricter POSIX checking.",
  "    -W random=number set initial random seed.",
  "    -W sprintf=number adjust size of sprintf buffer.",
  "    -W usage         show this message and exit."]

def awkUsage : Octets :=
  Octets.unlines (("Usage: mawk [Options] [Program] [file ...]" :: awkHelp).map String.toList)

structure AwkArguments where
  separator : Option Octets := none
  assignments : List (Octets × Octets) := []
  sources : List Octets := []
  operands : List Octets := []

def awkArguments (c : Call) : Nat → AwkArguments → List Octets → Act AwkArguments
  | 0, a, _ | _, a, [] => return a
  | fuel + 1, a, w :: rest => do
    let valued (letter : Char) (attached : Octets) : Act (Octets × List Octets) := do
      match attached, rest with
      | [], s :: rest => return (s, rest)
      | [], [] => c.fail 2 ("option -".toList ++ letter :: " lacks argument".toList)
      | s, _ => return (s, rest)
    match w with
    | ['-', '-'] => return { a with operands := rest }
    | '-' :: '-' :: long =>
      if "version".toList = long then Call.abort 0
      if ["help".toList, "usage".toList].contains long then
        Act.put awkUsage
        Call.abort 0
      if ["posix", "re-interval", "traditional", "compat", "interactive"].contains
          (String.ofList long) then
        awkArguments c fuel a rest
      else c.fail 2 ("not an option: ".toList ++ w)
    | '-' :: letter :: attached =>
      match letter with
      | 'F' =>
        let (s, rest) ← valued letter attached
        awkArguments c fuel { a with separator := some s } rest
      | 'f' =>
        let (s, rest) ← valued letter attached
        awkArguments c fuel { a with sources := a.sources ++ [s] } rest
      | 'v' =>
        let (s, rest) ← valued letter attached
        match Awk.Run.assignment? s with
        | some setting =>
          awkArguments c fuel { a with assignments := a.assignments ++ [setting] } rest
        | none => c.fail 2 ("improper assignment: -v ".toList ++ s)
      | 'W' =>
        let (s, rest) ← valued letter attached
        if "version".toList = s then Call.abort 0
        if ["help".toList, "usage".toList].contains s then
          Act.put awkUsage
          Call.abort 0
        if !(["posix", "interactive", "compat", "repetitions"].contains (String.ofList s)) then
          c.complain ("vacuous option: -W \"".toList ++ s ++ ['"'])
        awkArguments c fuel a rest
      | _ => c.fail 2 ("not an option: ".toList ++ w)
    | _ => return { a with operands := w :: rest }

def awkSource (c : Call) (a : AwkArguments) : Act (Octets × List Octets) := do
  match a.sources, a.operands with
  | [], [] =>
    Act.writeTo 2 awkUsage
    Call.abort 0
  | [], s :: operands => return (s, operands)
  | sources, operands =>
    let texts ← sources.mapM fun name => do
      match ← c.read name with
      | .ok s => return s
      | .error e =>
        c.fail 2 ("cannot open \"".toList ++ name ++ "\" (".toList ++ .ofString e.text ++ [')'])
    return (Octets.join ['\n'] texts, operands)

def awkWorld (p : Awk.Program) (arguments : List Octets) (environment : List (Octets × Octets)) :
    Awk.World :=
  let scalars : List (String × Awk.Value) := [
    ("NF", .number 0), ("NR", .number 0), ("FNR", .number 0), ("FS", .text [' ']),
    ("OFS", .text [' ']), ("ORS", .text ['\n']), ("RS", .text ['\n']), ("FILENAME", .text []),
    ("SUBSEP", .text ['\x1c']), ("RSTART", .number 0), ("RLENGTH", .number (-1)),
    ("CONVFMT", .text Awk.usualFormat), ("OFMT", .text Awk.usualFormat),
    ("ARGC", Awk.Run.ofNat arguments.length)]
  let environment := environment.foldl (fun t (name, value) =>
    (Awk.Run.touchKey (.text name) t).set name (.read value)) ({} : Awk.Table Awk.Value)
  let arguments := arguments.zipIdx.foldl (fun t (s, i) =>
    (Awk.Run.touchKey (.number i) t).set (Octets.ofNat i) (.read s)) ({} : Awk.Table Awk.Value)
  { program := p
    scalars := scalars.foldl (fun a (name, v) => a.setIfInBounds (Awk.usual name) v)
      (Array.replicate p.names.size .unset)
    tables := ((Array.replicate p.names.size {}).setIfInBounds (Awk.usual "ENVIRON") environment)
      |>.setIfInBounds (Awk.usual "ARGV") arguments
    ranges := Array.replicate p.rules.length false }

def awk (c : Call) : Act Nat := do
  let a ← awkArguments c (c.args.length + 1) {} c.args
  let (text, operands) ← awkSource c a
  match Awk.read text with
  | .error (line, fault) =>
    let line := Octets.ofNat line ++ ": ".toList
    match fault with
    | .unexpected _ => c.complain (line ++ fault.text)
    | _ => c.complain ("line ".toList ++ line ++ fault.text)
    if fault = .extraBrace then c.complain ("line ".toList ++ line ++ Awk.SourceFault.nearEnd.text)
    return 2
  | .ok p =>
    let world := awkWorld p (c.name :: operands) (← get).environment
    let work : Awk.Run Nat := do
      match a.separator with
      | some s => Awk.Run.assignGlobal c "FS".toList (Awk.textOfArgument s)
      | none => pure ()
      for (name, value) in a.assignments do
        Awk.Run.assignGlobal c name (Awk.textOfArgument value)
      Awk.Run.program c p
    match ← work.run.run world with
    | (.ok status, _) => return status
    | (.error _, w) => return w.status

end DeployForge.Shell.Utility
