import DeployForge.Shell.Regex.Reading
import DeployForge.Shell.Utility.Input

namespace DeployForge.Shell.Utility

inductive Numbered where
  | all
  | filled
  | none
  | matching (r : Regex)

namespace Numbered

def read? (s : Octets) : Option (Except Regex.Fault Numbered) :=
  match s with
  | ['a'] => some (.ok .all)
  | ['t'] => some (.ok .filled)
  | ['n'] => some (.ok .none)
  | 'p' :: pattern => some ((Regex.parse {} pattern).map fun p => .matching p.regex)
  | _ => Option.none

end Numbered

structure Numbering where
  header : Numbered := .none
  body : Numbered := .filled
  footer : Numbered := .none
  width : Nat := 6
  separator : Octets := ['\t']
  kind : String := "rn"
  step : Int := 1
  first : Int := 1
  /-- How many empty lines count as one. -/
  joined : Nat := 1
  keeps : Bool := false
  mark : Octets := ['\\', ':']

namespace Numbering

def numberText (n : Numbering) (k : Int) : Octets :=
  match n.kind with
  | "ln" => Octets.padRight ' ' n.width (.ofInt k)
  | "rz" =>
    if k < 0 then '-' :: Octets.padLeft '0' (n.width - 1) (.ofNat k.natAbs)
    else Octets.padLeft '0' n.width (.ofInt k)
  | _ => Octets.padLeft ' ' n.width (.ofInt k)

structure Place where
  section_ : Numbered
  next : Int
  blanks : Nat := 0

def line (n : Numbering) (p : Place) (s : Octets) : Octets × Place :=
  let with_ : Octets × Place :=
    (n.numberText p.next ++ n.separator ++ s, { p with next := p.next + n.step, blanks := 0 })
  let without : Octets × Place := (List.replicate (n.width + n.separator.length) ' ' ++ s, p)
  let three := n.mark ++ n.mark ++ n.mark
  let start (kind : Numbered) : Octets × Place :=
    ([], { section_ := kind, next := if n.keeps then p.next else n.first })
  if !n.mark.isEmpty && s = three then start n.header
  else if !n.mark.isEmpty && s = n.mark ++ n.mark then start n.body
  else if !n.mark.isEmpty && s = n.mark then start n.footer
  else
    match p.section_ with
    | .none => without
    | .filled => if s.isEmpty then without else with_
    | .all =>
      if s.isEmpty && 1 < n.joined then
        if p.blanks + 1 = n.joined then with_
        else
          let (text, p) := without
          (text, { p with blanks := p.blanks + 1 })
      else with_
    | .matching r => if (Regex.find? { text := s.toArray } r 0).isSome then with_ else without

def lines (n : Numbering) : Place → List Octets → List Octets × Place
  | p, [] => ([], p)
  | p, s :: rest =>
    let (text, p) := n.line p s
    let (more, p) := n.lines p rest
    (text :: more, p)

end Numbering

def nl (c : Call) : Act Nat := do
  let g ← c.options [.valued "b" "body-numbering", .valued "d" "section-delimiter",
    .valued "f" "footer-numbering", .valued "h" "header-numbering", .valued "i" "line-increment",
    .valued "l" "join-blank-lines", .valued "n" "number-format", .plain "p" "no-renumber",
    .valued "s" "number-separator", .valued "v" "starting-line-number",
    .valued "w" "number-width"]
  let style (part : String) (usual : Numbered) : Act Numbered := do
    match g.value? (part ++ "-numbering") with
    | none => return usual
    | some s =>
      match Numbered.read? s with
      | some (.ok kind) => return kind
      | some (.error e) => c.failText 1 e.text
      | none =>
        c.misuse 1 (("invalid " ++ part ++ " numbering style: ").toList ++ Quote.always s)
  let number (name what : String) (usual : Int) : Act Int := do
    match g.value? name with
    | none => return usual
    | some s =>
      match Octets.int? s with
      | some n => return n
      | none => c.fail 1 (("invalid " ++ what ++ ": ").toList ++ Quote.always s)
  let natural (name what : String) (usual : Nat) : Act Nat := do
    let n ← number name what usual
    if n < 1 then
      c.fail 1 (("invalid " ++ what ++ ": ").toList ++ Quote.always ((g.value? name).getD [])
        ++ ": Numerical result out of range".toList)
    return n.toNat
  let kind := String.ofList ((g.value? "number-format").getD "rn".toList)
  if !(["ln", "rn", "rz"].contains kind) then
    c.misuse 1 ("invalid line numbering format: ".toList ++ Quote.always kind.toList)
  let n : Numbering := {
    header := ← style "header" .none
    body := ← style "body" .filled
    footer := ← style "footer" .none
    width := ← natural "number-width" "line number field width" 6
    separator := (g.value? "number-separator").getD ['\t']
    kind
    step := ← number "line-increment" "line number increment" 1
    first := ← number "starting-line-number" "starting line number" 1
    joined := ← natural "join-blank-lines" "line number of blank lines" 1
    keeps := g.has "no-renumber"
    mark := match g.value? "section-delimiter" with
      | none => ['\\', ':']
      | some [ch] => [ch, ':']
      | some s => s }
  let mut place : Numbering.Place := { section_ := n.body, next := n.first }
  let mut status := 0
  for name in if g.operands.isEmpty then [['-']] else g.operands do
    match ← c.read? name with
    | none => status := 1
    | some text =>
      let (shown, p) := n.lines place (Octets.lines text).1
      place := p
      Act.put (Octets.unlines shown)
  return status

end DeployForge.Shell.Utility
