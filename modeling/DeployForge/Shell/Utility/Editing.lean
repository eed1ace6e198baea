import DeployForge.Shell.Edit.Reading
import DeployForge.Shell.Edit.Run

namespace DeployForge.Shell.Utility

def editFlags : List Flag := [
  .plain "b" "binary", .plain "" "debug", .valued "e" "expression", .valued "f" "file",
  .plain "" "follow-symlinks", .optional "i" "in-place", .valued "l" "line-length",
  .plain "n" "quiet", .plain "" "silent", .plain "" "posix", .plain "E" "regexp-extended",
  .plain "r" "", .plain "s" "separate", .plain "" "sandbox", .plain "u" "unbuffered",
  .plain "z" "null-data", .plain "" "zero-terminated", .plain "h" "help", .plain "" "version"]

def editUsage (name : Octets) : Octets :=
  "Usage: ".toList ++ name
    ++ " [OPTION]... \x7bscript-only-if-no-other-script\x7d [input-file]...\n".toList

def misuseOfEdit {α : Type} (c : Call) : Act α := do
  modify fun m => ((m.write 2 (editUsage c.name)).toOption).getD m
  Call.abort 1

def scriptParts (c : Call) (g : Given) : Act (List (Edit.Origin × Octets) × List Octets) := do
  let mut parts := []
  for (name, value) in g.options do
    match name, value with
    | "expression", some s => parts := parts ++ [(Edit.Origin.expression, s)]
    | "file", some file =>
      match ← c.read file with
      | .ok s => parts := parts ++ [(Edit.Origin.file file, s)]
      | .error .isDirectory =>
        c.fail 4 ("read error on ".toList ++ file ++ ": Is a directory".toList)
      | .error e =>
        c.fail 4 ("couldn't open file ".toList ++ file ++ ": ".toList ++ .ofString e.text)
    | _, _ => pure ()
  if !parts.isEmpty then return (parts, g.operands)
  else
    match g.operands with
    | s :: files => return ([(.expression, s)], files)
    | [] => misuseOfEdit c

def sed (c : Call) : Act Nat := do
  match Options.read editFlags true (c.args.length + 1) c.args with
  | .error e =>
    c.complain e.text
    misuseOfEdit c
  | .ok g =>
    if g.has "help" then
      Act.put (editUsage c.name)
      return 0
    if g.has "version" then return 0
    let width := (g.value? "line-length").elim 70 fun s => Octets.nat (s.takeWhile Char.isDigit)
    let (parts, files) ← scriptParts c g
    let rules : Edit.Rules := {
      extended := g.has "regexp-extended" || g.has "r"
      isStrict := g.has "posix"
      isConfined := g.has "sandbox" }
    match Edit.script rules parts with
    | .error ⟨some place, fault⟩ =>
      c.fail 1 (place.text ++ ": ".toList ++ .ofString fault.text)
    | .error ⟨none, _⟩ =>
      c.failText 4 "character class syntax is [[:space:]], not [:space:]"
    | .ok script =>
      match script.missing? with
      | some label => c.fail 4 ("can't find label for jump to \x60".toList ++ label ++ ['\''])
      | none => pure ()
      let isInPlace := g.has "in-place"
      if isInPlace && files.isEmpty then c.failText 4 "no input files"
      Edit.edit c script
        { isQuiet := script.isQuiet || g.has "quiet" || g.has "silent"
          isSeparate := isInPlace || g.has "separate"
          inPlace := if isInPlace then some ((g.value? "in-place").getD []) else none
          followsLinks := g.has "follow-symlinks"
          mark := if g.has "null-data" || g.has "zero-terminated" then '\x00' else '\n'
          width
          expressions := parts.countP (·.1 = .expression) }
        (if files.isEmpty then [['-']] else files)

end DeployForge.Shell.Utility
