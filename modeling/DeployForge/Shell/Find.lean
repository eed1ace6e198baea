import DeployForge.Shell.Format
import DeployForge.Shell.Pattern
import DeployForge.Shell.Regex
import DeployForge.Shell.Storage

namespace DeployForge.Shell.Find

structure Bound where
  relation : Ordering
  number : Nat
  deriving DecidableEq, Repr

def Bound.holds (b : Bound) (n : Nat) : Bool := compare n b.number = b.relation

inductive Rights where
  | exactly
  | every
  | any
  deriving DecidableEq, Repr

inductive Piece where
  | text (s : Octets)
  | field (f : Format) (kind : Char)
  | time (f : Format) (directive : Char)
  | stop
  deriving DecidableEq, Repr

inductive Test where
  | always
  | never
  | name (folds : Bool) (p : Pattern)
  | path (folds : Bool) (p : Pattern)
  | target (folds : Bool) (p : Pattern)
  | expression (folds : Bool) (r : Regex)
  /-- The kind is one of some letters. A link may count as what it leads to, or as itself. -/
  | kind (letters : List Char) (crosses : Bool)
  | size (unit : Nat) (b : Bound)
  | isEmpty
  | rights (how : Rights) (bits onDirectory : Nat)
  | newer (time : Int)
  | days (b : Bound)
  | minutes (b : Bound)
  | owner (b : Bound)
  | links (b : Bound)
  | inode (b : Bound)
  | same (l : Location)
  | leadsSomewhere
  | isRunnable
  deriving DecidableEq, Repr

inductive Action where
  | print (mark : Char) (file : Option Octets)
  | format (pieces : List Piece) (file : Option Octets)
  | run (isInside asks : Bool) (words : List Octets)
  | gather (key : Nat) (isInside : Bool) (words : List Octets)
  | delete
  | prune
  | quit
  deriving DecidableEq, Repr

inductive Query where
  | test (t : Test)
  | action (a : Action)
  | not (q : Query)
  | both (p q : Query)
  | either (p q : Query)
  | list (p q : Query)
  deriving DecidableEq, Repr

inductive Follows where
  | never
  | named
  | always
  deriving DecidableEq, Repr

structure Range where
  follows : Follows := .never
  least : Nat := 0
  most : Option Nat := none
  isDeep : Bool := false
  deriving DecidableEq, Repr

def Query.acts : Query → Bool
  | test _ => false
  | action a => a ≠ .prune
  | not q => acts q
  | both p q | either p q | list p q => acts p || acts q

def folded (p : Pattern) : Pattern :=
  p.map fun w =>
    match w with
    | .char c => .char c.toLower
    | .set members => .set { members with
        ranges := members.ranges.map fun (low, high) => (low.toLower, high.toLower) }
    | w => w

def accepts (folds : Bool) (p : Pattern) (s : Octets) : Bool :=
  if folds then Pattern.accepts (folded p) (Octets.toLower s) else Pattern.accepts p s

end DeployForge.Shell.Find
