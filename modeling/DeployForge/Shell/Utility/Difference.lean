import DeployForge.Shell.Utility.Amount
import DeployForge.Shell.Utility.Files

namespace DeployForge.Shell.Utility

def cmpOptions (c : Call) : Act Given := do
  let flags := [Flag.plain "b" "print-bytes", .valued "i" "ignore-initial", .plain "l" "verbose",
    .valued "n" "bytes", .plain "s" "quiet", .plain "s" "silent", .plain "" "help"]
  match Options.read flags true (c.args.length + 1) c.args with
  | .ok g => return g
  | .error e =>
    c.complain e.text
    c.complain ("Try '".toList ++ c.name ++ " --help' for more information.".toList)
    Call.abort 2

def differences : Octets → Octets → Nat → List (Nat × Char × Char)
  | a :: s, b :: t, n => if a = b then differences s t (n + 1) else (n, a, b) :: differences s t (n + 1)
  | _, _, _ => []

def printedByte (c : Char) : Octets :=
  let low (n : Nat) : Octets :=
    if n < 32 then ['^', octet (n + 64)] else if n = 127 then ['^', '?'] else [octet n]
  if c.toNat < 128 then low c.toNat else 'M' :: '-' :: low (c.toNat - 128)

def octalByte (c : Char) : Octets := Octets.padLeft ' ' 3 (Nat.toDigits 8 c.toNat)

def cmp (c : Call) : Act Nat := do
  let g ← cmpOptions c
  let refuse {α : Type} (text : Octets) : Act α := do
    c.complain text
    c.complain ("Try '".toList ++ c.name ++ " --help' for more information.".toList)
    Call.abort 2
  let amount (what : String) (s : Octets) : Act Nat :=
    match if (s.head?.map Char.isDigit).getD false then Amount.read? s else none with
    | some n => return n
    | none => refuse (("invalid --" ++ what ++ " value ").toList ++ Quote.text s)
  let (name1, rest) ← match g.operands with
    | [] => refuse ("missing operand after ".toList ++ Quote.text c.name)
    | a :: rest => pure (a, rest)
  let name2 := rest.headD ['-']
  match rest.drop 3 with
  | extra :: _ => refuse ("extra operand ".toList ++ Quote.text extra)
  | [] => pure ()
  let skips ← (rest.drop 1).mapM (amount "ignore-initial")
  let (skip1, skip2) ← match g.value? "ignore-initial", skips with
    | some s, _ =>
      match Octets.cut? ':' s with
      | some (a, b) => do pure (← amount "ignore-initial" a, ← amount "ignore-initial" b)
      | none => do
        let n ← amount "ignore-initial" s
        pure (n, n)
    | none, [a] => pure (a, 0)
    | none, a :: b :: _ => pure (a, b)
    | none, [] => pure (0, 0)
  let most ← match g.value? "bytes" with
    | some s => (amount "bytes" s).map some
    | none => pure none
  let isQuiet := g.has "quiet" || g.has "silent"
  if isQuiet && g.has "verbose" then
    c.complainText "options -l and -s are incompatible"
    Act.complainOctets (c.name ++ ": Try '".toList ++ c.name
      ++ " --help' for more information.".toList)
    Call.abort 2
  let read (name : Octets) : Act Octets := do
    match ← c.read name with
    | .ok text => return text
    | .error e =>
      if !(isQuiet && e = .noEntry) then
        c.complain (name ++ ": ".toList ++ Octets.ofString e.text)
      Call.abort 2
  let limit (s : Octets) : Octets := match most with
    | some n => s.take n
    | none => s
  let s := limit ((← read name1).drop skip1)
  let t := limit ((← read name2).drop skip2)
  let found := differences s t 1
  let shorter := if s.length < t.length then some (name1, s)
    else if t.length < s.length then some (name2, t) else none
  if isQuiet then return if found.isEmpty && shorter.isNone then 0 else 1
  let isAll := g.has "verbose"
  let tellEnd : Act Unit :=
    match shorter with
    | none => pure ()
    | some (name, text) =>
      let n := text.length
      let place := if n = 0 then " which is empty".toList
        else
          let lines := text.countP (· = '\n')
          " after byte ".toList ++ Octets.ofNat n ++
            if isAll then []
            else if text.getLast? = some '\n' then ", line ".toList ++ Octets.ofNat lines
            else ", in line ".toList ++ Octets.ofNat (lines + 1)
      c.complain ("EOF on ".toList ++ name ++ place)
  if isAll then
    let width := (Octets.ofNat (min s.length t.length)).length
    for (n, a, b) in found do
      let bytes := if g.has "print-bytes" then
          octalByte a ++ ' ' :: Octets.padRight ' ' 4 (printedByte a) ++ ' ' :: octalByte b ++ ' '
            :: printedByte b
        else octalByte a ++ ' ' :: octalByte b
      Act.putLine (Octets.padLeft ' ' width (.ofNat n) ++ ' ' :: bytes)
    tellEnd
  else
    match found with
    | [] => tellEnd
    | (n, a, b) :: _ =>
      let line := (s.take (n - 1)).countP (· = '\n') + 1
      let unit := if g.has "print-bytes" then ": byte " else ": char "
      let bytes := if g.has "print-bytes" then
          " is ".toList ++ octalByte a ++ ' ' :: printedByte a ++ ' ' :: octalByte b ++ ' '
            :: printedByte b
        else []
      Act.putLine (name1 ++ ' ' :: name2 ++ " differ".toList ++ unit.toList ++ Octets.ofNat n
        ++ ", line ".toList ++ Octets.ofNat line ++ bytes)
  return if found.isEmpty && shorter.isNone then 0 else 1

end DeployForge.Shell.Utility
