import DeployForge.Shell.Machine

namespace DeployForge.Shell

namespace Machine

def opened? (m : Machine) (fd : Nat) : Option (Nat × Opened) := do
  let n ← m.table.lookup fd
  return (n, ← m.opened[n]?)

def connect (m : Machine) (fd n : Nat) : Machine :=
  { m with table := (fd, n) :: m.table.filter (·.1 ≠ fd) }

def disconnect (m : Machine) (fd : Nat) : Machine :=
  { m with table := m.table.filter (·.1 ≠ fd) }

def openAs (m : Machine) (fd : Nat) (o : Opened) : Machine :=
  ({ m with opened := m.opened.push o }).connect fd m.opened.size

def setOpened (m : Machine) (n : Nat) (o : Opened) : Machine :=
  { m with opened := m.opened.setIfInBounds n o }

def newStream (m : Machine) : Nat × Machine :=
  (m.streams.size, { m with streams := m.streams.push [], streamSizes := m.streamSizes.push 0 })

def stream (m : Machine) (n : Nat) : Octets := ((m.streams[n]?).getD []).reverse.flatten

/-- How much of an endless device is read at once. -/
def endless : Nat := 65536

def pipeSize : Nat := 4000000

def remaining (m : Machine) (o : Opened) : Octets :=
  match o.channel with
  | .text rest => rest
  | .file l =>
    match m.storage.content? l with
    | some content => .ofByteArray (content.extract o.offset content.size)
    | none => []
  | .nameless content => .ofByteArray (content.extract o.offset content.size)
  | .device .zero | .device .full => List.replicate endless '\x00'
  | .device _ | .stream _ => []

def readable (m : Machine) (fd : Nat) : Except OsError Octets :=
  match m.opened? fd with
  | some (_, o) => if o.isReadable then .ok (m.remaining o) else .error .badDescriptor
  | none => .error .badDescriptor

def advance (m : Machine) (fd count : Nat) : Machine :=
  match m.opened? fd with
  | some (n, o) =>
    match o.channel with
    | .text rest => m.setOpened n { o with channel := .text (rest.drop count) }
    | _ => m.setOpened n { o with offset := o.offset + count }
  | none => m

def rewound (m earlier : Machine) (fd count : Nat) : Machine :=
  match earlier.opened? fd with
  | some (n, o) => (m.setOpened n o).advance fd count
  | none => m

def splice (content : ByteArray) (offset : Nat) (text : Octets) : ByteArray :=
  if offset = content.size then content ++ text.toByteArray
  else
    let before := content.extract 0 offset
    let gap : ByteArray := (List.replicate (offset - content.size) (0 : UInt8)).toByteArray
    before ++ gap ++ text.toByteArray ++ content.extract (offset + text.length) content.size

def writeFile (m : Machine) (n : Nat) (o : Opened) (text : Octets) : Machine :=
  match o.channel with
  | .file l =>
    let content := (m.storage.content? l).getD .empty
    let offset := if o.appends then content.size else o.offset
    let m := { m with storage := m.storage.put l (splice content offset text) }
    m.setOpened n { o with offset := offset + text.length }
  | .nameless content =>
    let offset := if o.appends then content.size else o.offset
    let channel : Channel := .nameless (splice content offset text)
    m.setOpened n { o with channel, offset := offset + text.length }
  | _ => m

def write (m : Machine) (fd : Nat) (text : Octets) : Except OsError Machine :=
  match m.opened? fd with
  | none => .error .badDescriptor
  | some (n, o) =>
    if !o.isWritable then .error .badDescriptor
    else if text.isEmpty then .ok m
    else
      match o.channel with
      | .stream i =>
        .ok { m with
          streams := m.streams.modify i (text :: ·)
          streamSizes := m.streamSizes.modify i (· + text.length) }
      | .device .full => .error .noSpace
      | .device _ | .text _ => .ok m
      | .file _ | .nameless _ => .ok (m.writeFile n o text)

def overflows (m : Machine) (fd : Nat) : Bool :=
  match m.opened? fd with
  | some (_, { channel := .stream i, .. }) => pipeSize < (m.streamSizes[i]?).getD 0
  | _ => false

def orphan (m : Machine) (l : Location) : Machine :=
  { m with
    opened := m.opened.map fun o =>
      match o.channel with
      | .file at_ =>
        if at_ = l then { o with channel := .nameless ((m.storage.content? l).getD .empty) } else o
      | _ => o }

def follow (m : Machine) (a b : Location) : Machine :=
  { m with
    opened := m.opened.map fun o =>
      match o.channel with
      | .file l => if a.isPrefixOf l then { o with channel := .file (b ++ l.drop a.length) } else o
      | _ => o }

def fileOf? (m : Machine) (fd : Nat) : Option Location :=
  match m.opened? fd with
  | some (_, { channel := .file l, .. }) => some l
  | _ => none

def openToRead (m : Machine) (p : Octets) : Except OsError Opened := do
  match ← m.storage.status true p with
  | (_, .device (.descriptor fd)) =>
    match m.opened? fd with
    | some (_, o) => .ok o
    | none => .error .noEntry
  | (_, .device d) => .ok { channel := .device d, isWritable := false }
  | (l, .directory) => .ok { channel := .file l, isWritable := false }
  | (l, .file _) => .ok { channel := .file l, isWritable := false }
  | (_, .program) => .ok { channel := .text [], isWritable := false }
  | (_, .link _) => .error .noEntry

inductive Writing where
  | truncate
  | append
  | keep
  deriving DecidableEq, Repr

def openToWrite (m : Machine) (writing : Writing) (reads : Bool) (p : Octets) :
    Except OsError (Opened × Machine) := do
  let l ← m.storage.locate true p
  let appends := writing = .append
  match m.storage.entry? l with
  | some .directory => .error .isDirectory
  | some (.device (.descriptor fd)) =>
    match m.opened? fd with
    | some (_, o) => .ok (o, m)
    | none => .error .noEntry
  | some (.device d) => .ok ({ channel := .device d, isReadable := reads }, m)
  | some .program => .error .busy
  | some (.link _) => .error .noEntry
  | some (.file _) =>
    if (Storage.asPath p).endsInSlash then .error .isDirectory
    else if Storage.namesDirectory (Storage.asPath p) then .error .notDirectory
    else
      let m := if writing = .truncate then { m with storage := m.storage.put l .empty } else m
      .ok ({ channel := .file l, isReadable := reads, appends }, m)
  | none =>
    if (Storage.asPath p).endsInSlash then .error .isDirectory
    else if Storage.namesDirectory (Storage.asPath p) then .error .noEntry
    else
      let m := { m with storage := m.storage.put l .empty }
      .ok ({ channel := .file l, isReadable := reads, appends }, m)

def read (m : Machine) (p : Octets) : Except OsError Octets := do
  match ← m.storage.status true p with
  | (_, .directory) => .error .isDirectory
  | (_, .file content) => .ok (.ofByteArray content)
  | _ => return m.remaining (← m.openToRead p)

end Machine

namespace Act

/-- Writes to a descriptor. What cannot be written is lost, and the first failure is kept. -/
def writeTo (fd : Nat) (text : Octets) : Act Unit := do
  let m ← get
  match m.write fd text with
  | .ok m =>
    set m
    if m.overflows fd then throw (.killed 13)
  | .error e => set { m with writeFault := m.writeFault.or (some e) }

def put (text : Octets) : Act Unit := writeTo 1 text

def putText (text : String) : Act Unit := put (.ofString text)

def putLine (text : Octets) : Act Unit := put (text ++ ['\n'])

def complainOctets (text : Octets) : Act Unit :=
  modify fun m => ((m.write 2 (text ++ ['\n'])).toOption).getD m

def complain (text : String) : Act Unit := complainOctets (.ofString text)

def warn (text : Octets) : Act Unit := do
  let m ← get
  let command := (m.command.map (· ++ ": ".toList)).getD []
  complainOctets (m.name ++ ": ".toList ++ .ofNat m.line ++ ": ".toList ++ command ++ text)

def fail {α : Type} (text : Octets) : Act α := do
  warn text
  setStatus 2
  throw .error

def failText {α : Type} (text : String) : Act α := fail (.ofString text)

def readAll (fd : Nat) : Act (Except OsError Octets) := do
  let m ← get
  match m.opened? fd with
  | some (_, { channel := .file l, .. }) =>
    if m.storage.tree.isDirectory l then return .error .isDirectory
  | _ => pure ()
  match m.readable fd with
  | .error e => return .error e
  | .ok s =>
    set (m.advance fd s.length)
    return .ok s

def assign (name value : Octets) : Act Unit := do
  let m ← get
  match m.binding? name with
  | some { isReadOnly := true, .. } => fail (name ++ ": is read only".toList)
  | _ => set (m.store name value)

end Act

end DeployForge.Shell
