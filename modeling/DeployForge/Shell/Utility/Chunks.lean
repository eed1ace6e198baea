import DeployForge.Shell.Utility.Amount
import DeployForge.Shell.Utility.Files

namespace DeployForge.Shell.Utility

def writeOut (appends : Bool) (p text : Octets) : Act (Except OsError Unit) := do
  let m ← get
  match m.openToWrite (if appends then .append else .truncate) false p with
  | .error e => return .error e
  | .ok (o, opened) =>
    let n := opened.opened.size
    let opened := { opened with opened := opened.opened.push o, table := [(1, n)] }
    match opened.write 1 text with
    | .ok written =>
      set { written with table := m.table }
      return .ok ()
    | .error e =>
      set { opened with table := m.table }
      return .error e

def tee (c : Call) : Act Nat := do
  let g ← c.options [.plain "a" "append", .plain "i" "ignore-interrupts", .plain "p" "",
    .optional "" "output-error"]
  let text ← match ← Act.readAll 0 with
    | .ok text => pure text
    | .error e =>
      c.complain ("read error: ".toList ++ Octets.ofString e.text)
      pure []
  let status ← c.each g.operands fun p => do
    match ← writeOut (g.has "append") p text with
    | .ok () => return true
    | .error e =>
      c.complainOf p e
      return false
  Act.put text
  return status

structure Blocks where
  input : Option Octets := none
  output : Option Octets := none
  inputSize : Nat := 512
  outputSize : Nat := 512
  isDirect : Bool := false
  count : Option Nat := none
  skip : Nat := 0
  seek : Nat := 0
  recordSize : Nat := 0
  conversions : List String := []
  flags : List String := []
  status : String := "default"

def blockWords : List String := [
  "ascii", "ebcdic", "ibm", "block", "unblock", "lcase", "ucase", "sparse", "swab", "sync", "excl",
  "nocreat", "notrunc", "noerror", "fdatasync", "fsync"]

def blockAmount? (s : Octets) : Option Nat := do
  let ns ← (Text.splitAt 'x' s).mapM fun p =>
    if (p.head?.map Char.isDigit).getD false then Amount.read? p else none
  return ns.foldl (· * ·) 1

def readBlocks (c : Call) (b : Blocks) (word : Octets) : Act Blocks := do
  let unknown {α : Type} : Act α :=
    c.misuse 1 ("unrecognized operand ".toList ++ Quote.always word)
  match Octets.cut? '=' word with
  | none => unknown
  | some (name, value) =>
    let amount : Act Nat :=
      match blockAmount? value with
      | some n => return n
      | none => c.fail 1 ("invalid number: ".toList ++ Quote.always value)
    let size : Act Nat := do
      let n ← amount
      if n = 0 then c.fail 1 ("invalid number: ".toList ++ Quote.always value)
      return n
    let words := (Text.splitAt ',' value).map String.ofList
    match String.ofList name with
    | "if" => return { b with input := some value }
    | "of" => return { b with output := some value }
    | "bs" =>
      let n ← size
      return { b with inputSize := n, outputSize := n, isDirect := true }
    | "ibs" => return { b with inputSize := ← size }
    | "obs" => return { b with outputSize := ← size }
    | "cbs" => return { b with recordSize := ← size }
    | "count" => do
      if value.getLast? = some 'B' then
        return { b with count := some (← amount), flags := "count_bytes" :: b.flags }
      return { b with count := some (← amount) }
    | "skip" | "iseek" => return { b with skip := ← amount }
    | "seek" | "oseek" => return { b with seek := ← amount }
    | "conv" =>
      match words.find? fun w => !blockWords.contains w with
      | some w => c.misuse 1 ("invalid conversion: ".toList ++ Quote.always w.toList)
      | none => return { b with conversions := b.conversions ++ words }
    | "iflag" | "oflag" => return { b with flags := b.flags ++ words }
    | "status" =>
      if ["none", "noxfer", "progress"].contains (String.ofList value) then
        return { b with status := String.ofList value }
      else c.misuse 1 ("invalid status level: ".toList ++ Quote.always value)
    | _ => unknown

def swapped : Octets → Octets
  | a :: b :: rest => b :: a :: swapped rest
  | s => s

def blocked (size : Nat) (s : Octets) : Octets :=
  (s.records '\n').1.flatMap fun line => Octets.padRight ' ' size (line.take size)

def unblocked (size : Nat) (s : Octets) : Octets :=
  (s.chunks size).flatMap fun r => Octets.dropRightWhile (· = ' ') r ++ ['\n']

def dd (c : Call) : Act Nat := do
  let g ← c.options []
  let mut blocks : Blocks := {}
  for word in g.operands do blocks ← readBlocks c blocks word
  let b := blocks
  let does (s : String) : Bool := b.conversions.contains s
  if does "lcase" && does "ucase" then c.failText 1 "cannot combine lcase and ucase"
  let m ← get
  let skipped := if b.flags.contains "skip_bytes" then b.skip else b.skip * b.inputSize
  let wanted := b.count.map fun n => if b.flags.contains "count_bytes" then n else n * b.inputSize
  let opened ← match b.input with
    | none => pure none
    | some p =>
      match m.openToRead p with
      | .ok o => pure (some o)
      | .error e =>
        c.cannot "failed to open" p e
        Call.abort 1
  let isEndless := match opened.map (·.channel) with
    | some (.device .zero) | some (.device .full) => true
    | _ => false
  let text ← match opened with
    | some o =>
      if isEndless then
        match wanted with
        | some n => pure (List.replicate n '\x00')
        | none => throw (.killed 13)
      else pure ((m.remaining o).drop skipped)
    | none =>
      match m.readable 0 with
      | .ok s =>
        let s := s.drop skipped
        let n := min (wanted.getD s.length) s.length
        set (m.advance 0 (skipped + n))
        pure s
      | .error e => c.fail 1 ("error reading 'standard input': ".toList ++ Octets.ofString e.text)
  let text := match wanted with
    | some n => text.take n
    | none => text
  let whole := text.length / b.inputSize
  let part := if text.length % b.inputSize = 0 then 0 else 1
  let text := if does "sync" && part = 1 then
      text ++ List.replicate (b.inputSize - text.length % b.inputSize)
        (if does "block" || does "unblock" then ' ' else '\x00')
    else text
  let text := if does "swab" then swapped text else text
  let text := if does "lcase" then Octets.toLower text
    else if does "ucase" then Octets.toUpper text else text
  let text := if b.recordSize = 0 then text
    else if does "block" then blocked b.recordSize text
    else if does "unblock" then unblocked b.recordSize text
    else text
  let place := if b.flags.contains "seek_bytes" then b.seek else b.seek * b.outputSize
  match b.output with
  | none => Act.put text
  | some p =>
    let m ← get
    let isThere := (m.seen? p).isSome
    if does "excl" && isThere then
      c.cannot "failed to open" p .entryExists
      Call.abort 1
    if does "nocreat" && !isThere then
      c.cannot "failed to open" p .noEntry
      Call.abort 1
    let appends := b.flags.contains "append"
    match m.openToWrite (if appends then .append else .keep) false p with
    | .error e =>
      c.cannot "failed to open" p e
      Call.abort 1
    | .ok (o, m) =>
      match o.channel with
      | .file l =>
        let old := (m.storage.content? l).getD .empty
        let kept := if does "notrunc" || appends then old
          else
            let gap : ByteArray := (List.replicate (place - old.size) (0 : UInt8)).toByteArray
            old.extract 0 (min place old.size) ++ gap
        let place := if appends then old.size else place
        set { m with storage := m.storage.put l (Machine.splice kept place text) }
      | _ =>
        let n := m.opened.size
        let inner := { m with opened := m.opened.push o, table := [(1, n)] }
        match inner.write 1 text with
        | .ok written => set { written with table := m.table }
        | .error e =>
          c.cannot "error writing" p e
          Call.abort 1
  let outWhole := if b.isDirect then whole + (if does "sync" then part else 0)
    else text.length / b.outputSize
  let outPart := if b.isDirect then if does "sync" then 0 else part
    else if text.length % b.outputSize = 0 then 0 else 1
  if b.status ≠ "none" then
    Act.complainOctets (Octets.ofNat whole ++ '+' :: Octets.ofNat part ++ " records in".toList)
    Act.complainOctets (Octets.ofNat outWhole ++ '+' :: Octets.ofNat outPart
      ++ " records out".toList)
    if b.status ≠ "noxfer" then
      let noun := if text.length = 1 then " byte" else " bytes"
      Act.complainOctets (Octets.ofNat text.length ++ noun.toList
        ++ " copied, 0.001 s, 1.0 kB/s".toList)
  return 0

end DeployForge.Shell.Utility
