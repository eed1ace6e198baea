import DeployForge.Shell.Octets

namespace DeployForge.Shell.Quote

def isSpecial (c : Char) : Bool := " !\"$&()*;<=>[^`|\\?'".toList.contains c

def letter? : Char → Option Char
  | '\x07' => some 'a'
  | '\x08' => some 'b'
  | '\x0c' => some 'f'
  | '\n' => some 'n'
  | '\r' => some 'r'
  | '\t' => some 't'
  | '\x0b' => some 'v'
  | _ => none

def hidden (c : Char) : Octets :=
  match letter? c with
  | some l => ['\\', l]
  | none => '\\' :: Octets.inBase 8 3 c.toNat

def isNeeded (more : Char → Bool) (s : Octets) : Bool :=
  s.isEmpty || s.any (fun c => isSpecial c || more c || !isShown c)
    || (s.head?.map fun c => c = '#' || c = '~').getD false || s = ['\x7b'] || s = ['\x7d']

def inside : Bool → Octets → Octets
  | _, [] => []
  | isLeft, c :: rest =>
    if isShown c then
      let back := if isLeft then ['\'', '\''] else []
      back ++ (if c = '\'' then "'\\''".toList else [c]) ++ inside false rest
    else (if isLeft then [] else "'$'".toList) ++ hidden c ++ inside true rest

def always (s : Octets) : Octets :=
  let isPlain := s.all fun c => isShown c && !(isSpecial c && c ≠ '\'' && c ≠ ' ')
  if s.contains '\'' && isPlain then '"' :: s ++ ['"'] else '\'' :: inside false s ++ ['\'']

def ifNeeded (s : Octets) : Octets := if isNeeded (· = ':') s then always s else s

def name (s : Octets) : Octets := if isNeeded (fun _ => false) s then always s else s

def text (s : Octets) : Octets :=
  '\'' :: s.flatMap (fun c =>
    if c = '\'' || c = '\\' then ['\\', c] else if isShown c then [c] else hidden c) ++ ['\'']

end DeployForge.Shell.Quote
