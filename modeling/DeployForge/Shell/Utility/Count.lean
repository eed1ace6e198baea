import DeployForge.Shell.Utility.Input

namespace DeployForge.Shell.Utility

structure Counts where
  lines : Nat := 0
  words : Nat := 0
  bytes : Nat := 0
  longest : Nat := 0
  width : Nat := 0
  inWord : Bool := false

namespace Counts

def step (k : Counts) (c : Char) : Counts :=
  let k := { k with bytes := k.bytes + 1 }
  let closed (k : Counts) : Counts :=
    { k with longest := max k.longest k.width, width := 0, inWord := false }
  if c = '\n' then closed { k with lines := k.lines + 1 }
  else if c = '\r' || c = '\x0c' then closed k
  else if c = '\t' then { k with width := (k.width / 8 + 1) * 8, inWord := false }
  else if c = ' ' then { k with width := k.width + 1, inWord := false }
  else if c = '\x0b' then { k with inWord := false }
  else if isShown c then
    { k with width := k.width + 1, words := if k.inWord then k.words else k.words + 1, inWord := true }
  else k

def of (s : Octets) : Counts :=
  let k := s.foldl step {}
  { k with longest := max k.longest k.width }

def add (a b : Counts) : Counts :=
  { lines := a.lines + b.lines, words := a.words + b.words, bytes := a.bytes + b.bytes,
    longest := max a.longest b.longest }

end Counts

def sizeOf? (m : Machine) (name : Octets) : Option (Nat × Bool) :=
  let ofFile (l : Location) : Nat × Bool :=
    match m.storage.content? l with
    | some content => (content.size, true)
    | none => (0, false)
  if name = ['-'] then some (((m.fileOf? 0).map ofFile).getD (0, false))
  else
    match m.storage.status true name with
    | .ok (l, _) => some (ofFile l)
    | .error _ => none

def numberWidth (sizes : List (Nat × Bool)) : Nat :=
  let total := sumOf (sizes.map fun (n, isFile) => if isFile then n else 0)
  max (Nat.toDigits 10 total).length (if sizes.all (·.2) then 1 else 7)

def listedNames (c : Call) (g : Given) (p : Octets) : Act (List Octets) := do
  match g.operands with
  | extra :: _ =>
    c.complain ("extra operand ".toList ++ Quote.always extra)
    Act.complain "file operands cannot be combined with --files0-from"
    c.hint 1
  | [] =>
    match ← c.read p with
    | .ok text => return (text.records '\x00').1
    | .error e =>
      c.fail 1 ("cannot open ".toList ++ Quote.always p ++ " for reading: ".toList
        ++ .ofString e.text)

def wc (c : Call) : Act Nat := do
  let g ← c.options [.plain "c" "bytes", .plain "m" "chars", .plain "l" "lines",
    .plain "L" "max-line-length", .plain "w" "words", .valued "" "total", .valued "" "files0-from"]
  let totals ← match g.value? "total" with
    | none => pure "auto"
    | some s => c.chosen "--total" [["auto"], ["always"], ["only"], ["never"]] s
  let asked := ["lines", "words", "chars", "bytes", "max-line-length"].filter g.has
  let shown := if asked.isEmpty then ["lines", "words", "bytes"] else asked
  let list := g.value? "files0-from"
  let names ← match list with
    | some p => listedNames c g p
    | none => pure (if g.operands.isEmpty then [['-']] else g.operands)
  let m ← get
  let isPlain := totals = "only" || list = some ['-'] || names.length = 1 && shown.length = 1
  let width := numberWidth (if isPlain then [] else names.filterMap (sizeOf? m))
  let tell (k : Counts) (name : Octets) : Act Unit :=
    let value : String → Nat
      | "lines" => k.lines
      | "words" => k.words
      | "max-line-length" => k.longest
      | _ => k.bytes
    let numbers := shown.map fun what => Octets.padLeft ' ' width (.ofNat (value what))
    Act.putLine (Octets.join [' '] numbers ++ if name.isEmpty then [] else ' ' :: name)
  let mut status := 0
  let mut total : Counts := {}
  for (name, i) in names.zipIdx do
    if name.isEmpty then
      let place := match list with
        | some p => Quote.ifNeeded p ++ ':' :: Octets.ofNat (i + 1) ++ ": ".toList
        | none => []
      c.complain (place ++ "invalid zero-length file name".toList)
      status := 1
    else if list = some ['-'] && name = ['-'] then
      c.complain ("when reading file names from stdin, no file name of ".toList ++ Quote.always name
        ++ " allowed".toList)
      status := 1
    else
      let title := if g.operands.isEmpty && list.isNone then []
        else if name.contains '\n' then Quote.name name else name
      match ← c.read name with
      | .ok text =>
        let k := Counts.of text
        total := total.add k
        if totals ≠ "only" then tell k title
      | .error e =>
        c.complainOf name e
        if e = .isDirectory && totals ≠ "only" then tell {} title
        status := 1
  if totals = "always" || totals = "only" || totals = "auto" && 1 < names.length then
    tell total (if totals = "only" then [] else "total".toList)
  return status

end DeployForge.Shell.Utility
