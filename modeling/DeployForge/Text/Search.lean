namespace DeployForge.Text

def after? (needle : List Char) : List Char → Option (List Char)
  | [] => if needle.isEmpty then some [] else none
  | c :: rest =>
    if needle.isPrefixOf (c :: rest) then some ((c :: rest).drop needle.length)
    else after? needle rest

def occursIn (needle s : List Char) : Bool := (after? needle s).isSome

/-- The starts, counted from `start`, of the occurrences of `needle` that a scan from left to
right finds when it goes on behind each one; `busy` characters still belong to the last one. -/
def occurrencesFrom (needle : List Char) (start busy : Nat) : List Char → List Nat
  | [] => []
  | c :: rest =>
    match busy with
    | busy + 1 => occurrencesFrom needle (start + 1) busy rest
    | 0 =>
      if needle.isPrefixOf (c :: rest) then
        start :: occurrencesFrom needle (start + 1) (needle.length - 1) rest
      else occurrencesFrom needle (start + 1) 0 rest

def occurrences (needle s : List Char) : List Nat := occurrencesFrom needle 0 0 s

end DeployForge.Text
