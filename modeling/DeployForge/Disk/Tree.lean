import DeployForge.Path
import DeployForge.Disk.Fault

namespace DeployForge

abbrev Location := List String

inductive Node where
  | directory
  | file (content : ByteArray) (runnable : Bool)

instance : DecidableEq Node
  | .directory, .directory => isTrue rfl
  | .directory, .file _ _ => isFalse nofun
  | .file _ _, .directory => isFalse nofun
  | .file a r, .file b s =>
    match ByteArray.instDecidableEq a b, instDecidableEqBool r s with
    | isTrue h, isTrue k => isTrue (h ▸ k ▸ rfl)
    | isFalse h, _ => isFalse fun e => h (Node.file.inj e).1
    | _, isFalse k => isFalse fun e => k (Node.file.inj e).2

structure Tree where
  entries : List (Location × Node) := []

namespace Tree

def find? (t : Tree) (l : Location) : Option Node :=
  if l = [] then some .directory else t.entries.lookup l

def erase (t : Tree) (l : Location) : Tree := ⟨t.entries.filter (·.1 ≠ l)⟩

def insert (t : Tree) (l : Location) (n : Node) : Tree := ⟨(l, n) :: (t.erase l).entries⟩

def eraseBelow (t : Tree) (l : Location) : Tree := ⟨t.entries.filter (!l.isPrefixOf ·.1)⟩

def isDirectory (t : Tree) (l : Location) : Bool := t.find? l = some .directory

def children (t : Tree) (l : Location) : List (String × Node) :=
  t.entries.filterMap fun (at_, n) =>
    match at_.getLast? with
    | some name => if at_.dropLast = l then some (name, n) else none
    | none => none

/-- Follows names from a directory. The last one need not exist. -/
def walk (t : Tree) : Location → List String → Except OsError Location
  | at_, [] => .ok at_
  | at_, name :: rest =>
    match t.find? at_ with
    | none => .error .noEntry
    | some (.file _ _) => .error .notDirectory
    | some .directory =>
      if name = ".." then t.walk at_.dropLast rest
      else if name.utf8ByteSize > 255 then .error .nameTooLong
      else t.walk (at_ ++ [name]) rest

/-- Follows names from where `p` starts, seen from the directory `from_`. -/
def follow (t : Tree) (from_ : Location) (p : Path) (names : List String) :
    Except IoError Location :=
  if p.text.toList.contains '\x00' then .error .nulInPath
  else if p.text.isEmpty then .error (.os .noEntry)
  else if p.text.utf8ByteSize > 4095 then .error (.os .nameTooLong)
  else (t.walk (if p.isAbsolute then [] else from_) names).mapError .os

def locate (t : Tree) (from_ : Location) (p : Path) : Except IoError Location :=
  t.follow from_ p p.names

/-- A path that ends in a slash or a dot names a directory. -/
def status (t : Tree) (from_ : Location) (p : Path) : Except IoError Node := do
  let l ← t.locate from_ p
  match t.find? l with
  | none => .error (.os .noEntry)
  | some .directory => .ok .directory
  | some n => if p.endsInSlash || p.endsInDot then .error (.os .notDirectory) else .ok n

def read (t : Tree) (from_ : Location) (p : Path) : Except IoError ByteArray :=
  match t.status from_ p with
  | .error e => .error e
  | .ok .directory => .error (.os .isDirectory)
  | .ok (.file content _) => .ok content

/-- Where a write to `p` goes, and whether the file it replaces may be run. With a slash behind
it the last name stands for a directory, whatever it is. -/
def target (t : Tree) (from_ : Location) (p : Path) : Except IoError (Location × Bool) := do
  if p.endsInSlash && !p.endsInDot then
    let _ ← t.follow from_ p (p.names.dropLast ++ [".."])
    .error (.os .isDirectory)
  else
    let l ← t.locate from_ p
    match t.find? l with
    | some .directory => .error (.os .isDirectory)
    | some (.file _ runnable) =>
      if p.endsInDot then .error (.os .notDirectory) else .ok (l, runnable)
    | none => if p.endsInDot then .error (.os .noEntry) else .ok (l, false)

def remove (held : Location → Option Refusal) (t : Tree) (from_ : Location) (p : Path) :
    Except IoError Tree := do
  let l ← t.locate from_ p
  match t.find? l with
  | none => .error (.os .noEntry)
  | some .directory => .error (.os .isDirectory)
  | some (.file _ _) =>
    if p.endsInSlash || p.endsInDot then .error (.os .notDirectory)
    else match held l with
      | some refusal => .error (.os refusal.error)
      | none => .ok (t.erase l)

/-- Creates what is missing of a chain of directories, the outermost first. Below a directory
made on the way a file in the chain counts as an entry that exists, and a final dot makes none. -/
def createChain (dotted : Bool) (made : Bool) (t : Tree) (at_ : Location) :
    List String → Except IoError Unit × Tree
  | [] => (.ok (), t)
  | name :: rest =>
    match t.walk at_ [name] with
    | .error e => (.error (.os e), t)
    | .ok l =>
      match t.find? l with
      | some .directory => createChain dotted made t l rest
      | some (.file _ _) =>
        (.error (.os (if !made && (rest ≠ [] || dotted) then .notDirectory else .entryExists)), t)
      | none =>
        if dotted && rest = [] then (.error (.os .noEntry), t)
        else createChain dotted true (t.insert l .directory) l rest

def createDirectories (t : Tree) (from_ : Location) (p : Path) : Except IoError Unit × Tree :=
  if p.text.isEmpty then (.ok (), t)
  else if p.text.toList.contains '\x00' then (.error .nulInPath, t)
  else if p.text.utf8ByteSize > 4095 then (.error (.os .nameTooLong), t)
  else t.createChain p.endsInDot false (if p.isAbsolute then [] else from_) p.names

end Tree

end DeployForge
