import DeployForge.CommandLine.Session

/-!
The program. It takes in the files below the working directory and the project, runs on them, and
puts back what the run changed.
-/

namespace DeployForge.CommandLine

def searchDepth : Nat := 64

def startsScript (content : ByteArray) : Bool :=
  content.size ≥ 2 && content[0]? = some 0x23 && content[1]? = some 0x21

def gather : Nat → IO.FS.DirEntry → IO (List (Location × Node))
  | 0, _ => return []
  | depth + 1, entry => do
    let l := (Path.mk entry.path.toString).names
    match (← entry.path.symlinkMetadata).type with
    | .dir =>
      let below ← (← entry.path.readDir).toList.mapM (gather depth)
      return (l, .directory) :: below.flatten
    | .file =>
      let content ← IO.FS.readBinFile entry.path
      return [(l, .file content (startsScript content))]
    | _ => return []

def ancestors (l : Location) : List (Location × Node) :=
  (List.range l.length).map fun n => (l.take (n + 1), .directory)

/-- A directory that cannot be read gives nothing. -/
def takeIn (dir : String) : IO (List (Location × Node)) := do
  try
    let dir ← IO.FS.realPath dir
    let below ← (← dir.readDir).toList.mapM (gather searchDepth)
    return ancestors (Path.mk dir.toString).names ++ below.flatten
  catch _ => return []

def processEnvironment : IO Variables := do
  try
    let content ← IO.FS.readBinFile "/proc/self/environ"
    let texts := Text.splitAt '\x00' (Text.Utf8.decode content.toList)
    return texts.filterMap fun text =>
      let name := text.takeWhile (· ≠ '=')
      if name.isEmpty then none else some (.ofList name, .ofList (text.drop (name.length + 1)))
  catch _ => return []

def deepestFirst (entries : List (Location × Node)) : List (Location × Node) :=
  entries.mergeSort fun (l, _) (m, _) => m.length ≤ l.length

/-- Removes what is gone and writes what is new or has changed. -/
def putBack (before after : Tree) : IO Unit := do
  for (l, node) in deepestFirst before.entries do
    if after.find? l ≠ some node then
      match node with
      | .directory => if (after.find? l).isNone then IO.FS.removeDirAll (Path.ofNames l).text
      | .file _ _ => IO.FS.removeFile (Path.ofNames l).text
  for (l, node) in (deepestFirst after.entries).reverse do
    if before.find? l ≠ some node then
      match node with
      | .directory => IO.FS.createDirAll (Path.ofNames l).text
      | .file content _ => IO.FS.writeBinFile (Path.ofNames l).text content

def projectOf (args : List String) : String :=
  match Invocation.read args with
  | .ok invocation => invocation.project
  | .error _ => "."

def start (args : List String) : IO UInt32 := do
  let began ← IO.monoMsNow
  let place ← IO.FS.realPath "."
  let entries := (← takeIn ".") ++ (← takeIn (projectOf args))
  let tree := entries.foldl (fun (tree : Tree) (l, node) => tree.insert l node) {}
  let (ending, disk) :=
    run (← processEnvironment) args { tree, place := (Path.mk place.toString).names }
  putBack tree disk.tree
  IO.print ending.console.output
  if ending.isSummarized then
    IO.println (ending.console.elapsedLine (((← IO.monoMsNow) - began) / 10))
  match ending.error with
  | some text => IO.eprintln text
  | none => if ending.isUsageError then IO.eprintln ("\n".intercalate helpLines)
  return UInt32.ofNat ending.code

end DeployForge.CommandLine

def main (args : List String) : IO UInt32 := DeployForge.CommandLine.start args
