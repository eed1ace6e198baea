import DeployForge.Toml.Value

/-!
Putting keys and headers together into one table. A key is set once, a table is opened by one
header, and dotted keys extend only the tables that dotted keys made.
-/

namespace DeployForge.Toml

namespace Entries

def replace (key : String) (v : Value) : Entries → Entries
  | [] => []
  | (k, old) :: rest => if k = key then (k, v) :: rest else (k, old) :: replace key v rest

def erase (key : String) (entries : Entries) : Entries := entries.filter (·.1 ≠ key)

/-- Sets `key` in the table at the end of the dotted `path`, which has to be a dotted one. -/
def put (key : String) (v : Value) : List String → Entries → Option Entries
  | [], entries => if (entries.lookup key).isSome then none else some (entries ++ [(key, v)])
  | name :: path, entries =>
    match entries.lookup name with
    | none => do
      let inner ← put key v path []
      return entries ++ [(name, .table .dotted inner)]
    | some (.table kind inner) =>
      if kind = .dotted || kind = .implied && path ≠ [] then do
        let inner ← put key v path inner
        return replace name (.table kind inner) entries
      else none
    | some (.tables elements) =>
      match path, elements.getLast? with
      | _ :: _, some last => do
        let last ← put key v path last
        return replace name (.tables (elements.dropLast ++ [last])) entries
      | _, _ => none
    | some _ => none

/-- Changes the table that the names of a header lead to. A series of tables stands for its
last one, and missing tables are implied. -/
def within (change : Entries → Option Entries) : List String → Entries → Option Entries
  | [], entries => change entries
  | name :: path, entries =>
    match entries.lookup name with
    | none => do
      let inner ← within change path []
      return entries ++ [(name, .table .implied inner)]
    | some (.table .inlined _) => none
    | some (.table kind inner) => do
      let inner ← within change path inner
      return replace name (.table kind inner) entries
    | some (.tables elements) => do
      let last ← elements.getLast?
      let last ← within change path last
      return replace name (.tables (elements.dropLast ++ [last])) entries
    | some _ => none

/-- Opens the table `key`. One that was only implied so far moves to the end. -/
def openTable (key : String) (body : Entries → Option Entries) (entries : Entries) :
    Option Entries :=
  match entries.lookup key with
  | none => do return entries ++ [(key, .table .header (← body []))]
  | some (.table .implied inner) => do
    return erase key entries ++ [(key, .table .header (← body inner))]
  | some _ => none

def openElement (key : String) (body : Entries → Option Entries) (entries : Entries) :
    Option Entries :=
  match entries.lookup key with
  | none => do return entries ++ [(key, .tables [← body []])]
  | some (.tables elements) => do
    return replace key (.tables (elements ++ [← body []])) entries
  | some _ => none

end Entries

structure Assignment where
  path : List String
  key : String
  value : Value

def assign (assignments : List Assignment) (entries : Entries) : Option Entries :=
  assignments.foldlM (fun entries a => entries.put a.key a.value a.path) entries

inductive Header where
  | root
  | table (path : List String) (key : String)
  | element (path : List String) (key : String)
  deriving DecidableEq, Repr

structure Section where
  header : Header
  assignments : List Assignment

def Section.add (entries : Entries) (s : Section) : Option Entries :=
  match s.header with
  | .root => assign s.assignments entries
  | .table path key => entries.within (Entries.openTable key (assign s.assignments)) path
  | .element path key => entries.within (Entries.openElement key (assign s.assignments)) path

def assemble (sections : List Section) : Option Entries := sections.foldlM Section.add []

end DeployForge.Toml
