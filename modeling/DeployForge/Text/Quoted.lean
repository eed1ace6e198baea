import DeployForge.Text.Unshown

/-!
Characters and texts between quotes, as messages show them: what would not show is written by
its number.
-/

namespace DeployForge.Text

def escape (quote c : Char) : String :=
  if c = quote || c = '\\' then "\\" ++ c.toString
  else if c = '\x00' then "\\0"
  else if c = '\t' then "\\t"
  else if c = '\r' then "\\r"
  else if c = '\n' then "\\n"
  else if unshown.contains c then
    "\\u\x7b" ++ String.ofList (Nat.toDigits 16 c.toNat) ++ "\x7d"
  else c.toString

def quoteChar (c : Char) : String := "'" ++ escape '\'' c ++ "'"

def quote (s : String) : String := "\"" ++ s.foldl (fun text c => text ++ escape '"' c) "" ++ "\""

end DeployForge.Text
