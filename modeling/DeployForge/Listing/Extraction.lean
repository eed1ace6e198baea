import DeployForge.Error
import DeployForge.Text.Lines
import DeployForge.Text.Search

/-!
One function taken out of an assembly listing: the helper lines before it, and its body, which
ends on the line where its braces close.
-/

namespace DeployForge.Listing

open Text

def programOpen : String := "PROGRAM\x7b"
def programClose : String := "\x7dEND>c"
def methodDecl : String := "DECLMETHOD"
def procDecl : String := "DECLPROC"
def procOpen : String := "PROC:<\x7b"
def procClose : String := "\x7d>"
def bodySeparator : String := "// Main deploy function content:"
def indent : String := "    "

def forwardDecl (function : String) : List Char := (procDecl ++ " " ++ function).toList
def bodyOpen (function : String) : List Char := (function ++ "() " ++ procOpen).toList

def opensProgram (line : Line) : Bool := trim line = programOpen.toList
def closesProgram (line : Line) : Bool := trim line = programClose.toList

/-- Blank lines, comments, getters, and the function's own forward declaration. -/
def isSkipped (function : String) (line : Line) : Bool :=
  let line := trim line
  line.isEmpty || "//".toList.isPrefixOf line || occursIn methodDecl.toList line
    || occursIn (forwardDecl function) line

/-- The lines after the program opens, unless it closes first. -/
def program? : List Line → Option (List Line)
  | [] => none
  | line :: rest =>
    if opensProgram line then some rest
    else if closesProgram line then none
    else program? rest

/-- The helper lines of a program, and where the body opens: the rest of that line, and the
lines after it. -/
def split (function : String) : List Line → List Line × Option (List Char × List Line)
  | [] => ([], none)
  | line :: rest =>
    if opensProgram line then split function rest
    else if closesProgram line then ([], none)
    else if isSkipped function line then split function rest
    else match after? (bodyOpen function) line with
      | some first => ([], some (first, rest))
      | none =>
        let (helpers, body) := split function rest
        (line :: helpers, body)

/-- The depth behind a brace. A brace that closes nothing leaves it at zero. -/
def brace (depth : Nat) (c : Char) : Nat :=
  if c = '\x7b' then depth + 1 else if c = '\x7d' then depth - 1 else depth

def depthAfter (depth : Nat) (line : Line) : Nat := line.foldl brace depth

/-- The lines up to the first one at whose end the depth is zero. -/
def capture? (depth : Nat) : List Line → Option (List Line)
  | [] => none
  | line :: rest =>
    let depth := depthAfter depth line
    if depth = 0 then some [line] else (capture? depth rest).map (line :: ·)

/-- Drops one closing `}>` and the blanks around it. -/
def stripClose (body : List Char) : List Char :=
  let text := trimEnd body
  if procClose.toList.isSuffixOf text then trimEnd (text.take (text.length - procClose.length))
  else body

inductive Failure where
  | noProgram
  | notFound (function : String)
  | notClosed (function : String)
  | empty (function : String)
  deriving DecidableEq, Repr

def Failure.message : Failure → String
  | noProgram => "listing has no '" ++ programOpen ++ "' line"
  | notFound function =>
    "'" ++ String.ofList (bodyOpen function)
      ++ "' not found in listing (stale build or wrong target?)"
  | notClosed function => "body of " ++ function ++ " is not closed before end of listing"
  | empty function => "no code extracted for " ++ function

/-- Helper lines, each indented once more, and the body without its closing `}>`. -/
structure Extracted where
  helpers : String
  body : String
  deriving DecidableEq, Repr

def Extracted.text (code : Extracted) : String :=
  trimmed (code.helpers ++ "\n" ++ indent ++ bodySeparator ++ "\n" ++ code.body)

def indented (helpers : List Line) : List Char := unlines (helpers.map (indent.toList ++ ·))

def bodyText (first : List Char) (captured : List Line) : List Char :=
  stripClose (unlines (first :: captured))

def extractLines (function : String) (listing : List Line) : Except Failure Extracted :=
  match program? listing with
  | none => .error .noProgram
  | some program =>
    match split function program with
    | (_, none) => .error (.notFound function)
    | (helpers, some (first, rest)) =>
      match capture? 1 rest with
      | none => .error (.notClosed function)
      | some captured =>
        let helpers := indented helpers
        let body := bodyText first captured
        if allBlank helpers && allBlank body then .error (.empty function)
        else .ok ⟨.ofList helpers, .ofList body⟩

def extract (listing function : String) : Except Error Extracted :=
  (extractLines function (lines listing.toList)).mapError (.extraction ·.message)

end DeployForge.Listing
