import DeployForge.Shell.Escape
import DeployForge.Shell.Utility.Amount
import DeployForge.Shell.Utility.Input

namespace DeployForge.Shell.Utility

structure Span where
  first : Nat
  last : Option Nat
  deriving DecidableEq, Repr

namespace Span

def contains (s : Span) (n : Nat) : Bool := s.first ≤ n && s.last.all (n ≤ ·)

inductive Fault where
  | zero
  | decreasing
  | noEndpoint
  | secondDash
  | unexpected (rest : Octets)
  | tooLarge (digits : Octets)

structure Draft where
  digits : Octets := []
  first : Option Octets := none

def Draft.close (d : Draft) : Except Fault Span := do
  let n := Octets.nat d.digits.reverse
  match d.first with
  | none => if n = 0 then .error .zero else return ⟨n, some n⟩
  | some before =>
    if before.isEmpty && d.digits.isEmpty then .error .noEndpoint
    let first := if before.isEmpty then 1 else Octets.nat before
    if d.digits.isEmpty then return ⟨first, none⟩
    else if n < first then .error .decreasing
    else return ⟨first, some n⟩

def readFrom (d : Draft) : Octets → Except Fault (List Span)
  | [] => do return [← d.close]
  | c :: rest =>
    if c = '-' then
      if d.first.isSome then .error .secondDash
      else if !d.digits.isEmpty && Octets.nat d.digits.reverse = 0 then .error .zero
      else readFrom { first := some d.digits.reverse } rest
    else if c = ',' || isBlank c then do
      let span ← d.close
      return span :: (← readFrom {} rest)
    else if c.isDigit then
      let digits := c :: d.digits
      if Octets.nat digits.reverse < 18446744073709551616 then readFrom { d with digits } rest
      else .error (.tooLarge (digits.reverse ++ rest.takeWhile Char.isDigit))
    else .error (.unexpected (c :: rest))

def readAll (s : Octets) : Except Fault (List Span) := readFrom {} s

def faultText (bytes : Bool) : Fault → Octets
  | .zero =>
    (if bytes then "byte/character positions are numbered from 1"
      else "fields are numbered from 1").toList
  | .decreasing => "invalid decreasing range".toList
  | .noEndpoint => "invalid range with no endpoint: -".toList
  | .secondDash =>
    (if bytes then "invalid byte or character range" else "invalid field range").toList
  | .unexpected rest =>
    (if bytes then "invalid byte/character position " else "invalid field value ").toList
      ++ Quote.text rest
  | .tooLarge digits =>
    (if bytes then "byte/character offset " else "field number ").toList ++ Quote.text digits
      ++ " is too large".toList

def sorted (spans : List Span) : List Span := spans.mergeSort fun a b => a.first ≤ b.first

end Span

def merged : List Span → List Span
  | [] => []
  | s :: rest =>
    match merged rest with
    | [] => [s]
    | t :: more =>
      match s.last with
      | none => [s]
      | some n =>
        if t.first ≤ n then
          let last := match t.last with
            | none => none
            | some k => some (max n k)
          ⟨s.first, last⟩ :: more
        else s :: t :: more

def cutChars (spans : List Span) (between : Octets) (s : Octets) : Octets :=
  let (_, out) := s.zipIdx.foldl (fun ((last : Option Nat), (out : List Octets)) (c, i) =>
    match spans.findIdx? (·.contains (i + 1)) with
    | none => (last, out)
    | some k =>
      if last.isSome && last ≠ some k then (some k, [c] :: between :: out)
      else (some k, [c] :: out)) (none, [])
  out.reverse.flatten

def complement (spans : List Span) : List Span :=
  let (next, out) := spans.foldl (fun ((next : Option Nat), (out : List Span)) s =>
    match next with
    | none => (none, out)
    | some n =>
      let out := if n < s.first then (⟨n, some (s.first - 1)⟩ : Span) :: out else out
      (s.last.map (· + 1), out)) (some 1, [])
  (match next with
    | some n => (⟨n, none⟩ : Span) :: out
    | none => out).reverse

def cut (c : Call) : Act Nat := do
  let g ← c.options [.valued "b" "bytes", .valued "c" "characters", .valued "d" "delimiter",
    .valued "f" "fields", .plain "n" "", .plain "s" "only-delimited", .plain "" "complement",
    .valued "" "output-delimiter", .plain "z" "zero-terminated"]
  let kinds := (g.options.map (·.1)).filter (["bytes", "characters", "fields"].contains ·)
  match kinds with
  | [] => c.misuseText 1 "you must specify a list of bytes, characters, or fields"
  | _ :: _ :: _ => c.misuseText 1 "only one list may be specified"
  | [kind] =>
    let ofFields := kind = "fields"
    let delimiter ← match g.value? "delimiter" with
      | none => pure '\t'
      | some [] => pure '\x00'
      | some [d] => pure d
      | some _ => c.misuseText 1 "the delimiter must be a single character"
    if !ofFields && g.has "delimiter" then
      c.misuseText 1 "an input delimiter may be specified only when operating on fields"
    if !ofFields && g.has "only-delimited" then
      c.misuseText 1 "suppressing non-delimited lines makes sense\n\tonly when operating on fields"
    let list := (g.value? kind).getD []
    let spans ← match Span.readAll list with
      | .ok spans => pure (merged (Span.sorted spans))
      | .error e => c.misuse 1 (Span.faultText (!ofFields) e)
    let spans := if g.has "complement" then complement spans else spans
    let mark := if g.has "zero-terminated" then '\x00' else '\n'
    let between := (g.value? "output-delimiter").getD (if ofFields then [delimiter] else [])
    let cutLine (line : Octets) : Option Octets :=
      if !ofFields then some (cutChars spans between line)
      else if !line.contains delimiter then if g.has "only-delimited" then none else some line
      else
        let fields := Text.splitAt delimiter line
        let kept := fields.zipIdx.filterMap fun (f, i) =>
          if spans.any (·.contains (i + 1)) then some f else none
        some (Octets.join between kept)
    c.eachInput g.operands fun _ text => do
      let (lines, _) := text.records mark
      Act.put ((lines.filterMap cutLine).flatMap fun line => line ++ [mark])

def delimiters : Octets → List Octets
  | [] => []
  | '\\' :: 'n' :: rest => ['\n'] :: delimiters rest
  | '\\' :: 't' :: rest => ['\t'] :: delimiters rest
  | '\\' :: '0' :: rest => [] :: delimiters rest
  | '\\' :: '\\' :: rest => ['\\'] :: delimiters rest
  | '\\' :: 'b' :: rest => ['\x08'] :: delimiters rest
  | '\\' :: 'f' :: rest => ['\x0c'] :: delimiters rest
  | '\\' :: 'r' :: rest => ['\r'] :: delimiters rest
  | '\\' :: 'v' :: rest => ['\x0b'] :: delimiters rest
  | '\\' :: c :: rest => [c] :: delimiters rest
  | c :: rest => [c] :: delimiters rest

def pasted (ds : List Octets) (pieces : List Octets) : Octets :=
  (pieces.zipIdx.map fun (p, i) =>
    if i = 0 then p else ((ds[(i - 1) % ds.length]?).getD []) ++ p).flatten

def rows (columns : List (List Octets)) : List (List Octets) :=
  let height := (columns.map List.length).foldl max 0
  (List.range height).map fun i => columns.map fun column => (column[i]?).getD []

def paste (c : Call) : Act Nat := do
  let g ← c.options [.valued "d" "delimiters", .plain "s" "serial", .plain "z" "zero-terminated"]
  let mark := if g.has "zero-terminated" then '\x00' else '\n'
  let given := (g.value? "delimiters").getD ['\t']
  if Escape.hasLooseEnd given then
    c.fail 1 ("delimiter list ends with an unescaped backslash: ".toList ++ given)
  let ds := delimiters given
  let ds := if ds.isEmpty then [[]] else ds
  let names := if g.operands.isEmpty then [['-']] else g.operands
  let line (pieces : List Octets) : Octets := pasted ds pieces ++ [mark]
  if g.has "serial" then
    let mut status := 0
    for name in names do
      match ← c.read? name with
      | some text => Act.put (line (text.records mark).1)
      | none => status := 1
    return status
  let shares := names.countP (· = ['-'])
  let input ← if 0 < shares then c.readOrFail 1 ['-'] else pure []
  let inputLines := (input.records mark).1
  let mut columns : List (List Octets) := []
  let mut seen := 0
  for name in names do
    if name = ['-'] then
      let own := inputLines.zipIdx.filterMap fun (l, i) => if i % shares = seen then some l else none
      columns := own :: columns
      seen := seen + 1
    else columns := ((← c.readOrFail 1 name).records mark).1 :: columns
  Act.put ((rows columns.reverse).flatMap line)
  return 0

def columnAfter (bytes : Bool) (column : Nat) (c : Char) : Nat :=
  if bytes then column + 1
  else if c = '\x08' then column - 1
  else if c = '\r' then 0
  else if c = '\t' then (column / 8 + 1) * 8
  else column + 1

def widthOf (bytes : Bool) (s : Octets) : Nat := s.foldl (columnAfter bytes) 0

def foldLine (bytes atBlanks : Bool) (width : Nat) : Nat → Octets → Nat → List Char → List Octets →
    List Octets
  | 0, kept, _, _, done => (kept.reverse :: done).reverse
  | _, kept, _, [], done => if kept.isEmpty then done.reverse else (kept.reverse :: done).reverse
  | fuel + 1, kept, column, c :: rest, done =>
    let next := columnAfter bytes column c
    if width < next && !kept.isEmpty then
      let behind := if atBlanks then kept.takeWhile fun d => !isBlank d else []
      if atBlanks && behind.length < kept.length then
        let front := kept.drop behind.length
        foldLine bytes atBlanks width fuel behind (widthOf bytes behind.reverse) (c :: rest)
          (front.reverse :: done)
      else foldLine bytes atBlanks width fuel [] 0 (c :: rest) (kept.reverse :: done)
    else foldLine bytes atBlanks width fuel (c :: kept) next rest done

/-- An option such as `-20` means `-w 20`. -/
def foldArgs (args : List Octets) : List Octets :=
  args.flatMap fun arg =>
    match arg with
    | '-' :: d :: ds => if d.isDigit then [['-', 'w'], d :: ds] else [arg]
    | _ => [arg]

def fold (c : Call) : Act Nat := do
  let g ← c.optionsOf [.plain "b" "bytes", .plain "s" "spaces", .valued "w" "width"] 1 true
    (foldArgs c.args)
  let width ← match g.value? "width" with
    | none => pure 80
    | some s =>
      match Octets.nat? s with
      | some (n + 1) => pure (n + 1)
      | some 0 =>
        c.fail 1 ("invalid number of columns: ".toList ++ Quote.text s
          ++ ": Numerical result out of range".toList)
      | none => c.fail 1 ("invalid number of columns: ".toList ++ Quote.text s)
  c.eachInput g.operands fun _ text => do
    let (lines, isEnded) := text.records '\n'
    let parts := lines.map fun line =>
      Octets.join ['\n']
        (foldLine (g.has "bytes") (g.has "spaces") width (3 * line.length + 3) [] 0 line [])
    Act.put (Octets.join ['\n'] parts ++ if isEnded && !lines.isEmpty then ['\n'] else [])

end DeployForge.Shell.Utility
