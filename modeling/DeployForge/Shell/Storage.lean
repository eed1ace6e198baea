import DeployForge.Disk
import DeployForge.Shell.Installed

/-! Files as programs see them: a tree with links, permissions, and the times of changes. -/

namespace DeployForge.Shell

inductive Device where
  | null
  | zero
  | full
  | descriptor (fd : Nat)
  deriving DecidableEq, Repr

local instance decidableEqContent : DecidableEq ByteArray := ByteArray.instDecidableEq

inductive Entry where
  | directory
  | file (content : ByteArray)
  | link (target : Octets)
  | device (d : Device)
  | program
  deriving DecidableEq

structure Storage where
  tree : Tree
  place : Location := []
  links : List (Location × Octets) := []
  /-- Permissions that differ from the usual ones. -/
  modes : List (Location × Nat) := []
  /-- When entries changed, in steps. -/
  times : List (Location × Int) := []
  clock : Int := 0
  umask : Nat := 18

namespace Storage

def devices : List (String × Device) := [
  ("null", .null), ("zero", .zero), ("full", .full), ("tty", .null), ("random", .zero),
  ("urandom", .zero), ("stdin", .descriptor 0), ("stdout", .descriptor 1),
  ("stderr", .descriptor 2)]

def systemDirectories : List Location := [
  ["dev"], ["tmp"], ["usr"], ["usr", "bin"], ["usr", "share"], ["usr", "lib"], ["bin"], ["etc"],
  ["var"], ["var", "tmp"], ["home"], ["root"], ["opt"], ["proc"], ["sys"], ["run"], ["mnt"],
  ["srv"], ["lib"], ["sbin"], ["usr", "sbin"], ["usr", "local"], ["usr", "local", "bin"]]

def ofTree (tree : Tree) (place : Location) : Storage :=
  let tree := systemDirectories.foldl
    (fun t l => if (t.find? l).isSome then t else t.insert l .directory) tree
  { tree, place }

def programAt? : Location → Option String
  | ["usr", "bin", name] | ["bin", name] => if isInstalled name then some name else none
  | _ => none

def deviceAt? : Location → Option Device
  | ["dev", name] => devices.lookup name
  | ["dev", "fd", n] => (n.toNat?).map .descriptor
  | _ => none

def entry? (s : Storage) (l : Location) : Option Entry :=
  match s.links.lookup l with
  | some target => some (.link target)
  | none =>
    match s.tree.find? l with
    | some .directory => some .directory
    | some (.file content _) => some (.file content)
    | none =>
      match deviceAt? l with
      | some d => some (.device d)
      | none =>
        match programAt? l with
        | some _ => some .program
        | none => none

/-- Follows names from a directory, at most `hops` links on the way. A link in the last place is
followed if `follows` says so, and the last name need not exist. -/
def walk (s : Storage) (follows : Bool) :
    Nat → Nat → Location → List String → Except OsError Location
  | 0, _, _, _ => .error .tooManyLinks
  | _, _, at_, [] => .ok at_
  | fuel + 1, hops, at_, name :: rest =>
    match s.tree.find? at_ with
    | some .directory =>
      if name = ".." then s.walk follows fuel hops at_.dropLast rest
      else if name.utf8ByteSize > 255 then .error .nameTooLong
      else
        let here := at_ ++ [name]
        match s.links.lookup here with
        | some target =>
          if rest.isEmpty && !follows then .ok here
          else
            match hops with
            | 0 => .error .tooManyLinks
            | hops + 1 =>
              let p : Path := ⟨target.toText⟩
              if p.text.isEmpty then .error .noEntry
              else s.walk follows fuel hops (if p.isAbsolute then [] else at_) (p.names ++ rest)
        | none => s.walk follows fuel hops here rest
    | some (.file _ _) => .error .notDirectory
    | none => if (s.entry? at_).isSome then .error .notDirectory else .error .noEntry

def asPath (p : Octets) : Path := ⟨p.toText⟩

def namesDirectory (p : Path) : Bool := p.endsInSlash || p.endsInDot

def locate (s : Storage) (follows : Bool) (p : Octets) : Except OsError Location :=
  let path := asPath p
  if p.isEmpty then .error .noEntry
  else if p.length > 4095 then .error .nameTooLong
  else s.walk (follows || namesDirectory path) (40 * 4096) 40
    (if path.isAbsolute then [] else s.place) path.names

/-- What a path names, with its location. A path that ends in a slash or a dot has to name a
directory. -/
def status (s : Storage) (follows : Bool) (p : Octets) : Except OsError (Location × Entry) := do
  let l ← s.locate follows p
  match s.entry? l with
  | none => .error .noEntry
  | some .directory => .ok (l, .directory)
  | some e => if namesDirectory (asPath p) then .error .notDirectory else .ok (l, e)

def isPresent (s : Storage) (p : Octets) : Bool := (s.status true p).isOk

def isDirectory (s : Storage) (p : Octets) : Bool :=
  match s.status true p with
  | .ok (_, .directory) => true
  | _ => false

def mode (s : Storage) (l : Location) : Nat :=
  match s.modes.lookup l with
  | some bits => bits
  | none =>
    if (s.links.lookup l).isSome then 511
    else
      match s.tree.find? l with
      | some .directory => if l = ["tmp"] then 1023 else 493
      | some (.file _ runnable) => if runnable then 493 else 420
      | none => if (deviceAt? l).isSome then 438 else 493

def time (s : Storage) (l : Location) : Int := (s.times.lookup l).getD 0

def setTime (s : Storage) (l : Location) (t : Int) : Storage :=
  { s with times := (l, t) :: s.times.filter (·.1 ≠ l) }

def touch (s : Storage) (l : Location) : Storage :=
  ({ s with clock := s.clock + 1 }).setTime l (s.clock + 1)

def setMode (s : Storage) (l : Location) (bits : Nat) : Storage :=
  let s := { s with modes := (l, bits) :: s.modes.filter (·.1 ≠ l) }
  match s.tree.find? l with
  | some (.file content _) =>
    { s with tree := s.tree.insert l (.file content (bits % 512 &&& 73 ≠ 0)) }
  | _ => s

def masked (s : Storage) (bits : Nat) : Nat := bits &&& (4095 - s.umask)

def isRunnable (s : Storage) (l : Location) : Bool :=
  match s.entry? l with
  | some (.file _) => s.mode l &&& 73 ≠ 0
  | some .program => true
  | _ => false

def put (s : Storage) (l : Location) (content : ByteArray) : Storage :=
  match s.tree.find? l with
  | some (.file _ runnable) =>
    ({ s with tree := s.tree.insert l (.file content runnable) }).touch l.dropLast |>.touch l
  | _ =>
    let s := { s with
      tree := s.tree.insert l (.file content false)
      modes := s.modes.filter (·.1 ≠ l) }
    let s := if s.umask = 18 then s else s.setMode l (s.masked 438)
    (s.touch l.dropLast).touch l

def content? (s : Storage) (l : Location) : Option ByteArray :=
  match s.tree.find? l with
  | some (.file content _) => some content
  | _ => none

def names (s : Storage) (l : Location) : List String :=
  let inTree := (s.tree.children l).map (·.1)
  let linked := s.links.filterMap fun (at_, _) =>
    if at_.dropLast = l then at_.getLast? else none
  (inTree ++ linked).mergeSort fun a b => Octets.atMost (.ofString a) (.ofString b)

def isEmptyDirectory (s : Storage) (l : Location) : Bool := (s.names l).isEmpty

def forget (s : Storage) (l : Location) : Storage :=
  { s with
    tree := s.tree.erase l
    links := s.links.filter (·.1 ≠ l)
    modes := s.modes.filter (·.1 ≠ l)
    times := s.times.filter (·.1 ≠ l) }

def makeDirectory (s : Storage) (p : Octets) (bits : Nat) : Except OsError Storage := do
  let l ← s.locate false (Octets.dropRightWhile (· = '/') p ++ if p = ['/'] then ['/'] else [])
  if (s.entry? l).isSome then .error .entryExists
  else if (asPath p).endsInDot then .error .noEntry
  else
    let s := { s with tree := s.tree.insert l .directory, modes := s.modes.filter (·.1 ≠ l) }
    let s := if s.masked bits = 493 then s else s.setMode l (s.masked bits)
    .ok ((s.touch l.dropLast).touch l)

def unlink (s : Storage) (p : Octets) : Except OsError (Location × Storage) := do
  let (l, e) ← s.status false p
  match e with
  | .directory => .error .isDirectory
  | .device _ | .program => .error .notPermitted
  | _ => .ok (l, (s.forget l).touch l.dropLast)

def removeDirectory (s : Storage) (p : Octets) : Except OsError Storage := do
  let (l, e) ← s.status false p
  match e with
  | .directory =>
    if (asPath p).endsInDot then .error .invalid
    else if l = [] then .error .busy
    else if s.isEmptyDirectory l then .ok ((s.forget l).touch l.dropLast)
    else .error .notEmpty
  | _ => .error .notDirectory

def link (s : Storage) (target p : Octets) : Except OsError Storage := do
  let l ← s.locate false p
  if target.isEmpty then .error .noEntry
  else if (s.entry? l).isSome then .error .entryExists
  else if (asPath p).endsInSlash then .error .noEntry
  else .ok ((({ s with links := (l, target) :: s.links }).touch l.dropLast).touch l)

def moveAll (s : Storage) (a b : Location) : Storage :=
  let moved (l : Location) : Location := if a.isPrefixOf l then b ++ l.drop a.length else l
  { s with
    tree := ⟨s.tree.entries.map fun (l, n) => (moved l, n)⟩
    links := s.links.map fun (l, t) => (moved l, t)
    modes := s.modes.map fun (l, t) => (moved l, t)
    times := s.times.map fun (l, t) => (moved l, t)
    place := moved s.place }

def rename (s : Storage) (p q : Octets) : Except OsError (Location × Location × Storage) := do
  let (a, e) ← s.status false p
  let plain := Octets.dropRightWhile (· = '/') q
  let b ← s.locate false (if e = .directory && !plain.isEmpty then plain else q)
  match e, s.entry? b with
  | _, none =>
    if e ≠ .directory && (asPath q).endsInSlash then .error .notDirectory
    else if e = .directory && a.isPrefixOf b then .error .invalid
    else .ok (a, b, ((s.moveAll a b).touch a.dropLast).touch b.dropLast)
  | .directory, some .directory =>
    if a = b then .ok (a, b, s)
    else if a.isPrefixOf b then .error .invalid
    else if b.isPrefixOf a || !s.isEmptyDirectory b then .error .notEmpty
    else .ok (a, b, (s.forget b).moveAll a b)
  | .directory, some _ => .error .notDirectory
  | _, some .directory => .error .isDirectory
  | _, some _ =>
    if (asPath q).endsInSlash then .error .notDirectory
    else if a = b then .ok (a, b, s)
    else .ok (a, b, (((s.forget b).moveAll a b).touch a.dropLast).touch b.dropLast)

def pathOf (l : Location) : Octets := .ofString (Path.ofNames l).text

/-- A tree without links: each gives way to what it leads to, or to nothing. -/
def settled (s : Storage) : Tree :=
  s.links.foldl (fun tree (l, _) =>
    match s.walk true (40 * 4096) 40 [] l with
    | .error _ => tree
    | .ok target =>
      match tree.find? target with
      | none => tree
      | some (.file content runnable) => tree.insert l (.file content runnable)
      | some .directory =>
        if target.isPrefixOf l then tree.insert l .directory
        else
          ⟨tree.entries ++ tree.entries.filterMap fun (m, n) =>
            if target.isPrefixOf m then some (l ++ m.drop target.length, n) else none⟩)
    s.tree

end Storage

end DeployForge.Shell
