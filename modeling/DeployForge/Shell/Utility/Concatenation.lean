import DeployForge.Shell.Utility.Input

namespace DeployForge.Shell.Utility

structure Showing where
  numbersAll : Bool := false
  numbersFilled : Bool := false
  squeezes : Bool := false
  ends : Bool := false
  tabs : Bool := false
  hidden : Bool := false

namespace Showing

structure Place where
  line : Nat := 0
  isStart : Bool := true
  blanks : Nat := 0

def isPlain (s : Showing) : Bool :=
  !(s.numbersAll || s.numbersFilled || s.squeezes || s.ends || s.tabs || s.hidden)

def char (s : Showing) (c : Char) : Octets :=
  let low (c : Char) : Octets :=
    if c.toNat < 32 then ['^', octet (c.toNat + 64)]
    else if c.toNat = 127 then ['^', '?'] else [c]
  if c = '\t' then if s.tabs then ['^', 'I'] else [c]
  else if !s.hidden then [c]
  else if c.toNat < 128 then low c
  else 'M' :: '-' :: low (octet (c.toNat - 128))

def number (n : Nat) : Octets := Octets.padLeft ' ' 6 (.ofNat n) ++ ['\t']

def go (s : Showing) : List Char → Place → List Octets → Place × Octets
  | [], p, done => (p, done.reverse.flatten)
  | c :: rest, p, done =>
    if p.isStart && c = '\n' then
      if s.squeezes && 1 ≤ p.blanks then s.go rest p done
      else
        let numbers := s.numbersAll && !s.numbersFilled
        let line := if numbers then p.line + 1 else p.line
        let shown := (if numbers then number line else []) ++ (if s.ends then ['$'] else []) ++ ['\n']
        s.go rest { p with line, blanks := p.blanks + 1 } (shown :: done)
    else
      let numbers := p.isStart && (s.numbersAll || s.numbersFilled)
      let line := if numbers then p.line + 1 else p.line
      let start := if numbers then number line else []
      let shown := if c = '\n' then (if s.ends then ['$', '\n'] else ['\n'])
        else if c = '\r' && s.ends && rest.head? = some '\n' then ['^', 'M']
        else s.char c
      s.go rest { line, isStart := c = '\n', blanks := 0 } ((start ++ shown) :: done)

end Showing

/-- Whether a file is what the output goes to, with something in it that would be read again. -/
def isOwnOutput (m : Machine) (name : Octets) : Bool :=
  match m.fileOf? 1 with
  | none => false
  | some l =>
    let same := if name = ['-'] then m.fileOf? 0 = some l
      else (m.storage.status true name).toOption.map (·.1) = some l
    same && ((m.storage.content? l).getD .empty).size ≠ 0

def cat (c : Call) : Act Nat := do
  let g ← c.options [.plain "A" "show-all", .plain "b" "number-nonblank", .plain "e" "",
    .plain "E" "show-ends", .plain "n" "number", .plain "s" "squeeze-blank", .plain "t" "",
    .plain "T" "show-tabs", .plain "u" "", .plain "v" "show-nonprinting"]
  let all := g.has "show-all"
  let showing : Showing := {
    numbersAll := g.has "number"
    numbersFilled := g.has "number-nonblank"
    squeezes := g.has "squeeze-blank"
    ends := all || g.has "show-ends" || g.has "e"
    tabs := all || g.has "show-tabs" || g.has "t"
    hidden := all || g.has "show-nonprinting" || g.has "e" || g.has "t" }
  if ((← get).opened? 1).isNone then
    c.failText 1 "standard output: Bad file descriptor"
  let mut place : Showing.Place := {}
  let mut status := 0
  for name in if g.operands.isEmpty then [['-']] else g.operands do
    if isOwnOutput (← get) name then
      c.complain (Quote.ifNeeded name ++ ": input file is output file".toList)
      status := 1
    else
      match ← c.read? name with
      | none => status := 1
      | some text =>
        if showing.isPlain then Act.put text
        else
          let (p, shown) := showing.go text place []
          place := p
          Act.put shown
  return status

end DeployForge.Shell.Utility
