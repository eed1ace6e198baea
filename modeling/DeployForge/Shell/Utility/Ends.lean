import DeployForge.Shell.Utility.Amount
import DeployForge.Shell.Utility.Input

namespace DeployForge.Shell.Utility

structure Part where
  bytes : Bool := false
  opposite : Bool := false
  count : Nat := 10
  mark : Char := '\n'

namespace Part

def lengthOf (mark : Char) : Nat → Octets → Nat → Nat
  | 0, _, done => done
  | _, [], done => done
  | n + 1, c :: rest, done => lengthOf mark (if c = mark then n else n + 1) rest (done + 1)

def countOf (mark : Char) (s : Octets) : Nat :=
  let ends := s.countP (· = mark)
  if (s.getLast?.getD mark) = mark then ends else ends + 1

def front (p : Part) (s : Octets) : Nat :=
  if p.bytes then if p.opposite then s.length - p.count else min p.count s.length
  else if p.opposite then lengthOf p.mark (countOf p.mark s - p.count) s 0
  else lengthOf p.mark p.count s 0

def back (p : Part) (s : Octets) : Octets :=
  if p.bytes then s.drop (if p.opposite then p.count - 1 else s.length - p.count)
  else
    let skipped := if p.opposite then p.count - 1 else countOf p.mark s - p.count
    s.drop (lengthOf p.mark skipped s 0)

end Part

def signedAmount (c : Call) (sign : Char) (bytes : Bool) (s : Octets) : Act (Bool × Nat) := do
  let isOpposite := s.head? = some sign
  let digits := match s with
    | '-' :: rest | '+' :: rest => rest
    | rest => rest
  match if digits.isEmpty then none else Amount.read? digits with
  | some n => return (isOpposite, n)
  | none =>
    let what := if bytes then "invalid number of bytes: " else "invalid number of lines: "
    c.fail 1 (what.toList ++ Quote.always (if s.head? = some '-' then s.tail else s))

def readTrailing (c : Call) : Octets → Octets → Octets → Octets → Act (Octets × Octets × Octets)
  | kind, unit, others, [] => return (kind, unit, others)
  | kind, unit, others, l :: ls =>
    match l with
    | 'c' => readTrailing c ['c'] [] others ls
    | 'b' | 'k' | 'm' => readTrailing c ['c'] [l] others ls
    | 'l' => readTrailing c ['n'] unit others ls
    | 'q' | 'v' | 'z' => readTrailing c kind unit (l :: others) ls
    | _ => c.misuse 1 ("invalid trailing option -- ".toList ++ [l])

/-- The arguments of `head`, where a first one such as `-5` means `-n 5`. -/
def headArgs (c : Call) (args : List Octets) : Act (List Octets) := do
  match args with
  | ('-' :: d :: ds) :: rest =>
    if !d.isDigit then return args
    let digits := (d :: ds).takeWhile Char.isDigit
    let (kind, unit, others) ← readTrailing c ['n'] [] [] ((d :: ds).drop digits.length)
    let others := if others.isEmpty then [] else ['-' :: others.reverse]
    return others ++ ['-' :: kind, digits ++ unit] ++ rest
  | _ => return args

def tailArgs (args : List Octets) : List Octets :=
  match args with
  | (sign :: s) :: rest =>
    let isAlone := match rest with
      | [] => true
      | ['-', '-'] :: more => more.length < 2
      | [p] => p.head? ≠ some '-' || p = ['-']
      | _ => false
    let digits := s.takeWhile Char.isDigit
    let letters := s.drop digits.length
    let isKnown := letters.isEmpty || letters = ['b'] || letters = ['c'] || letters = ['l']
    let isMeant := sign = '+' || sign = '-' && !s.isEmpty && s ≠ ['c']
    if isAlone && isKnown && isMeant then
      let isBytes := letters = ['b'] || letters = ['c']
      let digits := if digits.isEmpty then ['1', '0'] else digits
      ['-', if isBytes then 'c' else 'n']
        :: (sign :: digits ++ if letters = ['b'] then ['b'] else []) :: rest
    else args
  | _ => args

def endFlags : List Flag := [
  .valued "c" "bytes", .valued "n" "lines", .plain "q" "quiet", .plain "q" "silent",
  .plain "v" "verbose", .plain "z" "zero-terminated"]

def partOf (c : Call) (g : Given) (sign : Char) : Act Part := do
  let mark := if g.has "zero-terminated" then '\x00' else '\n'
  match g.lastOf? ["bytes", "lines"] with
  | none => return { mark }
  | some kind =>
    let bytes := kind = "bytes"
    let (opposite, count) ← signedAmount c sign bytes ((g.value? kind).getD [])
    return { bytes, opposite, count, mark }

def titled (c : Call) (g : Given) (work : Octets → Octets → Act Bool) : Act Nat := do
  let names := if g.operands.isEmpty then [['-']] else g.operands
  let showsTitles := g.has "verbose" || 1 < names.length && !(g.has "quiet" || g.has "silent")
  let mut status := 0
  let mut isFirst := true
  for name in names do
    let title : Octets := if name = ['-'] then "standard input".toList else name
    let show_ (isFirst : Bool) : Act Unit := do
      if showsTitles then
        Act.put ((if isFirst then [] else ['\n']) ++ "==> ".toList ++ title ++ " <==\n".toList)
    match ← c.read name with
    | .ok text =>
      show_ isFirst
      isFirst := false
      if !(← work name text) then status := 1
    | .error e =>
      if e = .isDirectory then
        show_ isFirst
        isFirst := false
        c.complain ("error reading ".toList ++ Quote.always title ++ ": Is a directory".toList)
      else
        c.complain ("cannot open ".toList ++ Quote.always title ++ " for reading: ".toList
          ++ .ofString e.text)
      status := 1
  return status

def isEndless (m : Machine) (name : Octets) : Bool :=
  let channel : Option Channel :=
    if name = ['-'] then (m.opened? 0).map (·.2.channel)
    else (m.openToRead name).toOption.map (·.channel)
  match channel with
  | some (.device .zero) | some (.device .full) => true
  | _ => false

def head (c : Call) : Act Nat := do
  let g ← c.optionsOf endFlags 1 true (← headArgs c c.args)
  let part ← partOf c g '-'
  titled c g fun name text => do
    let m ← get
    let text := if part.bytes && !part.opposite && isEndless m name then
        List.replicate part.count '\x00' else text
    let n := part.front text
    Act.put (text.take n)
    if name = ['-'] then
      match m.opened? 0 with
      | some (i, o) =>
        match o.channel with
        | .file _ => modify fun m => m.setOpened i { o with offset := o.offset - (text.length - n) }
        | .text _ =>
          let block := if part.bytes then n else (n + 8191) / 8192 * 8192
          modify fun m => m.setOpened i { o with channel := .text (text.drop block) }
        | _ => pure ()
      | none => pure ()
    return true

def tail (c : Call) : Act Nat := do
  let g ← c.optionsOf (endFlags ++ [.optional "f" "follow", .plain "F" "", .plain "" "retry",
    .valued "s" "sleep-interval", .valued "" "pid"] ++ Flag.letters "0123456789") 1 true
    (tailArgs c.args)
  match g.options.find? fun (name, _) => name.any Char.isDigit with
  | some (digit, _) => c.failText 1 ("option used in invalid context -- " ++ digit)
  | none => pure ()
  let part ← partOf c g '+'
  titled c g fun _ text => do
    Act.put (part.back text)
    return true

end DeployForge.Shell.Utility
