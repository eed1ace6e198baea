import DeployForge.Shell.Utility.Digest
import DeployForge.Shell.Utility.Files

namespace DeployForge.Shell.Utility

def escapedName (s : Octets) : Octets :=
  s.flatMap fun c => match c with
    | '\\' => "\\\\".toList
    | '\n' => "\\n".toList
    | '\r' => "\\r".toList
    | c => [c]

def sumLine (g : Given) (p content : Octets) : Octets :=
  let isEscaped := p.any (fun ch => ch = '\\' || ch = '\n' || ch = '\r') && !g.has "zero"
  let name := if isEscaped then escapedName p else p
  let lead : Octets := if isEscaped then ['\\'] else []
  let digest := Digest.sha256 content.toByteArray
  let mark := if g.has "zero" then '\x00' else '\n'
  if g.has "tag" then
    lead ++ "SHA256 (".toList ++ name ++ ") = ".toList ++ digest ++ [mark]
  else
    let kind := if g.lastOf? ["binary", "text"] = some "binary" then '*' else ' '
    lead ++ digest ++ ' ' :: kind :: name ++ [mark]

/-- Prints the digests of files. Lists of digests are not checked. -/
def sha256sum (c : Call) : Act Nat := do
  let g ← c.options [.plain "b" "binary", .plain "" "tag", .plain "t" "text", .plain "z" "zero"]
  c.eachInput g.operands fun p content => Act.put (sumLine g p content)

end DeployForge.Shell.Utility
