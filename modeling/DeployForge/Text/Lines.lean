/-!
The lines of a text. A line feed ends a line together with the one carriage return before it; a
carriage return elsewhere is an ordinary character.
-/

namespace DeployForge.Text

abbrev Line := List Char

def lines : List Char → List Line
  | [] => []
  | '\n' :: rest => [] :: lines rest
  | '\r' :: '\n' :: rest => [] :: lines rest
  | c :: rest =>
    match lines rest with
    | [] => [[c]]
    | line :: more => (c :: line) :: more

def unlines : List Line → List Char
  | [] => []
  | line :: more => line ++ '\n' :: unlines more

end DeployForge.Text
