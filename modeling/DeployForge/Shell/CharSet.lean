import DeployForge.Shell.Octets

namespace DeployForge.Shell

structure CharSet where
  negated : Bool := false
  ranges : List (Char × Char) := []
  deriving DecidableEq, Repr

namespace CharSet

def contains (set : CharSet) (c : Char) : Bool :=
  set.negated != set.ranges.any fun (low, high) => low ≤ c && c ≤ high

def classes : List (String × List (Char × Char)) := [
  ("alpha", [('A', 'Z'), ('a', 'z')]),
  ("digit", [('0', '9')]),
  ("alnum", [('0', '9'), ('A', 'Z'), ('a', 'z')]),
  ("upper", [('A', 'Z')]),
  ("lower", [('a', 'z')]),
  ("space", [('\t', '\r'), (' ', ' ')]),
  ("blank", [('\t', '\t'), (' ', ' ')]),
  ("punct", [('!', '/'), (':', '@'), ('[', '\x60'), ('\x7b', '~')]),
  ("xdigit", [('0', '9'), ('A', 'F'), ('a', 'f')]),
  ("print", [(' ', '~')]),
  ("graph", [('!', '~')]),
  ("cntrl", [('\x00', '\x1f'), ('\x7f', '\x7f')])]

def ofClass? (name : List Char) : Option (List (Char × Char)) := classes.lookup (.ofList name)

def members (set : CharSet) : List Char :=
  ((List.range 256).map Char.ofNat).filter set.contains

end CharSet

end DeployForge.Shell
