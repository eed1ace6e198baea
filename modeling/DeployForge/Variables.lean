/-! Environment variables, kept as the texts `NAME=value` that a process is given. -/

namespace DeployForge

abbrev Variables := List (String × String)

namespace Variables

/-- What stands behind `name=` in the first text that begins so. A name may itself hold `=`. -/
def value? (vars : Variables) (name : String) : Option String :=
  if name.isEmpty then none
  else vars.findSome? fun (given, value) =>
    let text := given.toList ++ '=' :: value.toList
    let start := name.toList ++ ['=']
    if start.isPrefixOf text then some (.ofList (text.drop start.length)) else none

end Variables

end DeployForge
