import DeployForge.Shell.Search
import DeployForge.Shell.Utility.Files

namespace DeployForge.Shell.Utility

def withoutEnd (end_ name : Octets) : Octets :=
  if Octets.endsWith end_ name && end_.length < name.length then
    name.take (name.length - end_.length)
  else name

def basename (c : Call) : Act Nat := do
  let g ← c.options [.plain "a" "multiple", .valued "s" "suffix", .plain "z" "zero"] 1 false
  let mark := if g.has "zero" then '\x00' else '\n'
  let show_ (end_ : Option Octets) (p : Octets) : Act Unit :=
    let name := Octets.baseName p
    let name := match end_ with
      | some e => if name.head? = some '/' then name else withoutEnd e name
      | none => name
    Act.put (name ++ [mark])
  match g.operands with
  | [] => c.missingOperand
  | operands =>
    if g.has "multiple" || g.has "suffix" then operands.forM (show_ (g.value? "suffix"))
    else
      match operands with
      | _ :: _ :: extra :: _ => c.extraOperand extra
      | p :: end_ => show_ end_.head? p
      | [] => pure ()
  return 0

def dirname (c : Call) : Act Nat := do
  let g ← c.options [.plain "z" "zero"] 1 false
  let mark := if g.has "zero" then '\x00' else '\n'
  if g.operands.isEmpty then c.missingOperand
  for p in g.operands do Act.put (Octets.directoryName p ++ [mark])
  return 0

def pwd (c : Call) : Act Nat := do
  let g ← c.options [.plain "L" "logical", .plain "P" "physical"]
  if !g.operands.isEmpty then c.complainText "ignoring non-option arguments"
  let m ← get
  let logical := (m.value? "PWD".toList).getD []
  let isGood := logical.head? = some '/' && (m.seen? logical).map (·.1) = some m.storage.place
  if (g.lastOf? ["logical", "physical"]) = some "logical" && isGood then Act.putLine logical
  else Act.putLine (Storage.pathOf m.storage.place)
  return 0

inductive Existing where
  | all
  | parents
  | nothing
  deriving DecidableEq, Repr

def walkAnyway (s : Storage) : Nat → Location → List String → Location
  | 0, l, _ => l
  | _, l, [] => l
  | fuel + 1, l, name :: rest =>
    match s.walk true (40 * 4096) 40 l [name] with
    | .ok l => walkAnyway s fuel l rest
    | .error _ =>
      walkAnyway s fuel (if name = ".." then l.dropLast else l ++ [name]) rest

def canonical (s : Storage) (existing : Existing) (p : Octets) : Except OsError Location :=
  let path := Storage.asPath p
  match existing with
  | .all => (s.status true p).map (·.1)
  | .parents => do
    let l ← s.locate true p
    match s.entry? l with
    | some .directory | none => .ok l
    | some _ => if Storage.namesDirectory path then .error .notDirectory else .ok l
  | .nothing =>
    if p.isEmpty then .error .noEntry
    else
      .ok (walkAnyway s (path.names.length + 1) (if path.isAbsolute then [] else s.place) path.names)

/-- The names of a path with those that go up taken away, links not looked at. -/
def lexical (place : Location) (p : Octets) : Location :=
  let path := Storage.asPath p
  path.names.foldl (fun l name => if name = ".." then l.dropLast else l ++ [name])
    (if path.isAbsolute then [] else place)

def relative (from_ to_ : Location) : Octets :=
  let shared := ((from_.zip to_).takeWhile fun (a, b) => a = b).length
  let ups := List.replicate (from_.length - shared) ".."
  let names := ups ++ to_.drop shared
  if names.isEmpty then ['.'] else Octets.join ['/'] (names.map Octets.ofString)

def realpath (c : Call) : Act Nat := do
  let g ← c.options [.plain "e" "canonicalize-existing", .plain "m" "canonicalize-missing",
    .plain "L" "logical", .plain "P" "physical", .plain "q" "quiet", .plain "s" "strip",
    .plain "s" "no-symlinks", .plain "z" "zero", .valued "" "relative-to",
    .valued "" "relative-base"]
  if g.operands.isEmpty then c.missingOperand
  let existing : Existing :=
    match g.lastOf? ["canonicalize-existing", "canonicalize-missing"] with
    | some "canonicalize-existing" => .all
    | some _ => .nothing
    | none => .parents
  let mark := if g.has "zero" then '\x00' else '\n'
  let find (s : Storage) (p : Octets) : Except OsError Location :=
    if g.has "strip" || g.has "no-symlinks" then do
      if existing ≠ .nothing then discard (canonical s existing p)
      return lexical s.place p
    else canonical s existing p
  let base (name : String) : Act (Option Location) := do
    match g.value? name with
    | none => return none
    | some p =>
      match find (← get).storage p with
      | .ok l => return some l
      | .error e =>
        c.complainOf p e
        Call.abort 1
  let to_ ← base "relative-to"
  let under ← base "relative-base"
  c.each g.operands fun p => do
    match find (← get).storage p with
    | .ok l =>
      let isInside (l : Location) : Bool := under.all (·.isPrefixOf l)
      let shown := match to_, under with
        | some d, none => relative d l
        | some d, some _ => if isInside d && isInside l then relative d l else Storage.pathOf l
        | none, some b => if isInside l then relative b l else Storage.pathOf l
        | none, none => Storage.pathOf l
      Act.put (shown ++ [mark])
      return true
    | .error e =>
      if !g.has "quiet" then c.complainOf p e
      return false

end DeployForge.Shell.Utility
