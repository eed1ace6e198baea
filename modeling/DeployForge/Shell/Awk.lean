import DeployForge.Shell.Regex

namespace DeployForge.Shell.Awk

inductive Operator where
  | add
  | sub
  | mul
  | div
  | rem
  | pow
  deriving DecidableEq, Repr

inductive Relation where
  | less
  | atMost
  | equal
  | differs
  | more
  | atLeast
  deriving DecidableEq, Repr

def Relation.holds (r : Relation) (o : Ordering) : Bool :=
  match r with
  | less => o = .lt
  | atMost => o ≠ .gt
  | equal => o = .eq
  | differs => o ≠ .eq
  | more => o = .gt
  | atLeast => o ≠ .lt

inductive Name where
  | global (i : Nat)
  | own (i : Nat)
  deriving DecidableEq, Repr

inductive Builtin where
  | atan2
  | close
  | cos
  | exp
  | fflush
  | gsub
  | index
  | int
  | length
  | log
  | match_
  | rand
  | sin
  | split
  | sprintf
  | sqrt
  | srand
  | sub
  | substr
  | system
  | tolower
  | toupper
  deriving DecidableEq, Repr

namespace Builtin

def names : List (String × Builtin) := [
  ("atan2", atan2), ("close", close), ("cos", cos), ("exp", exp), ("fflush", fflush),
  ("gsub", gsub), ("index", index), ("int", int), ("length", length), ("log", log),
  ("match", match_), ("rand", rand), ("sin", sin), ("split", split), ("sprintf", sprintf),
  ("sqrt", sqrt), ("srand", srand), ("sub", sub), ("substr", substr), ("system", system),
  ("tolower", tolower), ("toupper", toupper)]

def arity : Builtin → Nat × Nat
  | atan2 | index | match_ => (2, 2)
  | length | fflush | srand => (0, 1)
  | rand => (0, 0)
  | split | sub | gsub | substr => (2, 3)
  | sprintf => (1, 255)
  | _ => (1, 1)

end Builtin

inductive Expr where
  | number (x : Float)
  | text (s : Octets)
  | regex (r : Regex)
  | variable_ (n : Name)
  | field (e : Expr)
  | element (array : Name) (indices : List Expr)
  | assign (op : Option Operator) (place e : Expr)
  /-- A change by one. The value is the one before it or behind it. -/
  | step (isBefore isUp : Bool) (place : Expr)
  | arithmetic (op : Operator) (a b : Expr)
  | compare (r : Relation) (a b : Expr)
  | matches_ (negated : Bool) (a b : Expr)
  | joined (a b : Expr)
  | both (a b : Expr)
  | either (a b : Expr)
  | not (e : Expr)
  | negative (e : Expr)
  | positive (e : Expr)
  | choice (test a b : Expr)
  | isIn (indices : List Expr) (array : Name)
  | call (function : Nat) (args : List Expr)
  | builtin (b : Builtin) (args : List Expr)
  | read (place : Option Expr)
  | readFile (place : Option Expr) (file : Expr)
  | readCommand (place : Option Expr) (command : Expr)
  | list (es : List Expr)
  deriving Inhabited

def Expr.isPlace : Expr → Bool
  | variable_ _ | field _ | element _ _ => true
  | _ => false

inductive Output where
  | file (e : Expr)
  | append (e : Expr)
  | pipe (e : Expr)

inductive Statement where
  | expr (e : Expr)
  | print (es : List Expr) (to_ : Option Output)
  | printf (es : List Expr) (to_ : Option Output)
  | block (ss : List Statement)
  | choice (test : Expr) (a b : Statement)
  | whileLoop (test : Expr) (body : Statement)
  | doLoop (body : Statement) (test : Expr)
  | forLoop (start : Statement) (test : Option Expr) (next body : Statement)
  | forIn (place : Expr) (array : Name) (body : Statement)
  | break_
  | continue_
  | next
  | nextFile
  | exit (e : Option Expr)
  | return_ (e : Option Expr)
  | delete (array : Name) (indices : List Expr)
  | deleteAll (array : Name)
  deriving Inhabited

inductive Condition where
  | always
  | holds (e : Expr)
  | between (first last : Expr)

structure Rule where
  condition : Condition
  action : Statement

structure Function where
  name : Octets
  /-- None as long as the function is only called. -/
  arity : Option Nat := none
  body : Statement := .block []

structure Program where
  begins : List Statement := []
  rules : List Rule := []
  ends : List Statement := []
  functions : Array Function := #[]
  names : Array Octets := #[]

def usualNames : List String := [
  "NF", "NR", "FNR", "FS", "OFS", "ORS", "RS", "FILENAME", "SUBSEP", "RSTART", "RLENGTH",
  "CONVFMT", "OFMT", "ENVIRON", "ARGC", "ARGV"]

def usual (name : String) : Nat := usualNames.idxOf name

end DeployForge.Shell.Awk
