import DeployForge.Shell.Octets

namespace DeployForge.Shell

inductive Modifier where
  | malformed
  | plain
  | orDefault
  | alternative
  | complain
  | assign
  | dropFront (longest : Bool)
  | dropBack (longest : Bool)
  | length
  deriving DecidableEq, Repr

inductive FileMode where
  | read
  | write
  | clobber
  | append
  | readWrite
  deriving DecidableEq, Repr

mutual

/-- A word is a row of marks. Quotes and ends of nested parts are marks of their own. -/
inductive Mark where
  | plain (c : Char)
  | escaped (c : Char)
  | quote
  | parameter (name : Octets) (modifier : Modifier) (ifEmpty : Bool)
  | endParameter
  | command (body : Command)
  | arithmetic
  | endArithmetic

inductive Redirect where
  | file (fd : Nat) (mode : FileMode) (path : List Mark)
  | duplicate (fd : Nat) (source : List Mark)
  | document (fd : Nat) (key : Nat) (expands : Bool)

inductive Command where
  | skip
  | simple (line : Nat) (assignments words : List (List Mark)) (redirects : List Redirect)
  | pipeline (commands : List Command) (isBackground : Bool)
  | redirected (line : Nat) (body : Command) (redirects : List Redirect)
  | background (line : Nat) (body : Command) (redirects : List Redirect)
  | nested (line : Nat) (body : Command) (redirects : List Redirect)
  | sequence (first second : Command)
  | both (first second : Command)
  | either (first second : Command)
  | negated (command : Command)
  | choice (test whenTrue whenFalse : Command)
  | loop (test : Command) (until_ : Bool) (body : Command)
  | each (line : Nat) (name : Octets) (words : List (List Mark)) (body : Command)
  | select (line : Nat) (word : List Mark) (arms : List (List (List Mark) × Command))
  | define (line : Nat) (name : Octets) (body : Command)

end

abbrev Word := List Mark

namespace Word

def plain? : Word → Option Octets
  | [] => some []
  | .plain c :: rest => (plain? rest).map (c :: ·)
  | _ :: _ => none

def bare : Word → Octets
  | [] => []
  | .plain c :: rest | .escaped c :: rest => c :: bare rest
  | _ :: rest => bare rest

def isName (s : Octets) : Bool :=
  match s with
  | c :: rest => isNameStart c && rest.all isNameChar
  | [] => false

def isAssignment (w : Word) : Bool :=
  let rec go (isFirst : Bool) : Word → Bool
    | .plain c :: rest =>
      if c = '=' then !isFirst
      else (if isFirst then isNameStart c else isNameChar c) && go false rest
    | _ => false
  go true w

end Word

end DeployForge.Shell
