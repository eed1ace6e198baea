import DeployForge.Shell.Arithmetic
import DeployForge.Shell.Parameter
import DeployForge.Shell.Redirection

/-! What the words of a command stand for. Commands in them are left to `substitute`. -/

namespace DeployForge.Shell.Expansion

open Act

def calculate (expression : Octets) : Act Int := do
  let m ← get
  match Arithmetic.evaluate m.value? expression with
  | .ok (n, bindings) =>
    for (name, value) in bindings do assign name (.ofInt value)
    return n
  | .error e => fail (e.message expression)

section

variable (substitute : Command → Act Octets)

mutual

/-- Puts in what the marks of a word stand for, up to the end of the part that they are. What
follows it is given back. -/
def grow : Nat → Mode → Bool → Word → Growth Word
  | 0, _, _, _ => throw .exhausted
  | fuel + 1, mode, inQuotes, w => do
    let here := { mode with isQuoted := mode.isQuoted || inQuotes }
    match w with
    | [] => return []
    | .endParameter :: rest | .endArithmetic :: rest => return rest
    | .plain _ :: _ =>
      let (text, rest) := mode.plainRun w
      let start ← Growth.size
      Growth.put here text
      if mode.inWord then Growth.record here start
      let isAfterSign := mode.isBinding && (text.getLast? = some '=' || text.getLast? = some ':')
      let mode := { mode with
        isAfterEquals := mode.isAfterEquals || text.getLast? = some '=' }
      let rest ← if isAfterSign then Growth.tilde mode rest else pure rest
      grow fuel mode inQuotes rest
    | .escaped c :: rest =>
      if !mode.isSkipped then
        modify (·.push (.char c true))
      grow fuel mode inQuotes rest
    | .quote :: rest =>
      match inQuotes, rest with
      | false, .parameter ['@'] .plain false :: .quote :: rest =>
        discard (parameter fuel { mode with isQuoted := true } ['@'] .plain false [])
        grow fuel mode false rest
      | _, _ =>
        if !mode.isSkipped then modify (·.push .mark)
        grow fuel mode (!inQuotes) rest
    | .parameter name modifier ifEmpty :: rest =>
      let rest ← parameter fuel here name modifier ifEmpty rest
      grow fuel mode inQuotes rest
    | .command body :: rest =>
      if !mode.isSkipped then
        let start ← Growth.size
        Growth.put here (← substitute body)
        Growth.record here start
      grow fuel mode inQuotes rest
    | .arithmetic :: rest =>
      let start ← Growth.size
      let rest ← grow fuel { isSkipped := mode.isSkipped } false rest
      if !mode.isSkipped then
        let expression := (← Growth.takeFrom start).map (·.1)
        Growth.put here (.ofInt (← calculate expression))
        Growth.record here start
      grow fuel mode inQuotes rest

def parameter : Nat → Mode → Octets → Modifier → Bool → Word → Growth Word
  | 0, _, _, _, _, _ => throw .exhausted
  | fuel + 1, mode, name, modifier, ifEmpty, rest => do
    let m ← getThe Machine
    let start ← Growth.size
    if modifier = .malformed && !mode.isSkipped then failText "Bad substitution"
    let value? := if modifier = .malformed then none else m.parameter? mode name
    let value := value?.getD []
    let isSet := value?.isSome && !(ifEmpty && value.isEmpty)
    let unset (text : String) : Growth Unit := fail (name ++ ": ".toList ++ text.toList)
    match modifier with
    | .alternative =>
      let inner := { mode with inWord := true, isSkipped := mode.isSkipped || !isSet }
      let rest ← grow fuel inner false (← Growth.tilde inner rest)
      if !isSet then Growth.recordValue mode name start
      return rest
    | .malformed | .orDefault =>
      if isSet then Growth.put mode value
      let inner := { mode with inWord := true, isSkipped := mode.isSkipped || isSet }
      let rest ← grow fuel inner false (← Growth.tilde inner rest)
      if isSet then Growth.recordValue mode name start
      return rest
    | .assign | .complain =>
      if isSet then Growth.put mode value
      let inner : Mode := { isSkipped := mode.isSkipped || isSet }
      let isBare := match rest with
        | .endParameter :: _ => true
        | _ => false
      let rest ← grow fuel inner false (← Growth.tilde inner rest)
      if isSet then Growth.recordValue mode name start
      else if !mode.isSkipped then
        let text := (← Growth.takeFrom start).map (·.1)
        if modifier = .assign then
          if !Word.isName name then unset "bad variable name"
          assign name text
          Growth.put mode text
          Growth.recordValue mode name start
        else if isBare then
          unset ("parameter not set" ++ if ifEmpty then " or null" else "")
        else fail (name ++ ": ".toList ++ text)
      return rest
    | .plain | .length =>
      if value?.isNone && !mode.isSkipped && m.has 'u' then unset "parameter not set"
      if modifier = .length then
        Growth.put mode (.ofNat value.length)
        Growth.recordValue mode name start
        return rest.drop 1
      else
        Growth.put mode value
        if isSet then Growth.recordValue mode name start
        return rest
    | .dropFront _ | .dropBack _ =>
      if value?.isNone && !mode.isSkipped && m.has 'u' then unset "parameter not set"
      let inner : Mode := { isSkipped := mode.isSkipped || !isSet }
      let rest ← grow fuel inner false (← Growth.tilde inner rest)
      if isSet && !mode.isSkipped then
        let pattern := Pattern.ofMarked (← Growth.takeFrom start).settle
        Growth.put mode (match modifier with
          | .dropFront longest => pattern.dropFront longest value
          | .dropBack longest => pattern.dropBack longest value
          | _ => value)
        Growth.recordValue mode name start
      return rest

end

def expanded (mode : Mode) (w : Word) : Act Expansion := Growth.run do
  let begun ← if mode.hasTilde then Growth.tilde mode w else pure w
  grow substitute (2 * w.length + 2) mode false begun

def fields (w : Word) : Act (List Octets) := do
  let e ← expanded substitute .field w
  let m ← get
  return (Field.split m.separators none e).flatMap (Field.paths m)

def marked (mode : Mode) (w : Word) : Act Marked :=
  return (← expanded substitute mode w).markedFrom 0

def text (mode : Mode) (w : Word) : Act Octets :=
  return (← marked substitute mode w).map (·.1)

def pattern (w : Word) : Act Pattern :=
  return Pattern.ofMarked (← marked substitute .single w).settle

def fill : List Word → Act (List Octets × List Word)
  | [] => return ([], [])
  | w :: ws => do
    let fs ← fields substitute w
    if fs.isEmpty then fill ws else return (fs, ws)

def allFields (takesBindings : Bool) : List Word → Act (List Octets)
  | [] => return []
  | w :: ws => do
    if takesBindings && w.isAssignment then
      let s ← text substitute .binding w
      return s :: (← allFields takesBindings ws)
    else
      let fs ← fields substitute w
      return fs ++ (← allFields takesBindings ws)

def target : Redirect → Act Redirection.Target
  | .file fd mode path => return .file fd mode (← text substitute .single path)
  | .duplicate fd source => do Redirection.duplicate fd (← text substitute .single source)
  | .document fd key expands => return .document fd key expands

def targets (rs : List Redirect) : Act (List Redirection.Target) := rs.mapM (target substitute)

def redirect (t : Redirection.Target) : Act Unit := do
  match t with
  | .file fd mode path => Redirection.openFile fd mode path
  | .close fd => modify (·.disconnect fd)
  | .duplicate fd source => if fd ≠ source then Redirection.connect fd source
  | .document fd key expands =>
    let w := ((← get).documents.lookup key).getD []
    let content ← if expands then text substitute { isQuoted := true } w else pure w.bare
    modify (·.openAs fd { channel := .text content, isWritable := false })

def redirectAll (ts : List Redirection.Target) : Act Unit := ts.forM (redirect substitute)

end

end DeployForge.Shell.Expansion
