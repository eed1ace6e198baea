import DeployForge.Config.Default
import DeployForge.Text.Quoted
import DeployForge.Toml.Document

/-!
Settings from a document. Keys are taken in the order in which they were written and the first
problem counts; a required field that is missing shows after the keys that are there.
-/

namespace DeployForge.Config

open Toml

inductive Found where
  | boolean (b : Bool)
  | integer (i : Int)
  | real (r : Toml.Real)
  | string (s : String)
  | sequence
  | map
  deriving DecidableEq, Repr

def Found.text : Found → String
  | boolean b => "boolean `" ++ toString b ++ "`"
  | integer i => "integer `" ++ toString i ++ "`"
  | real r => "floating point `" ++ r.text ++ "`"
  | string s => "string " ++ Text.quote s
  | sequence => "sequence"
  | map => "map"

def found : Value → Found
  | .boolean b => .boolean b
  | .integer i => .integer i
  | .real r => .real r
  | .string s => .string s
  | .array _ | .tables _ => .sequence
  | .table _ _ | .dateTime => .map

inductive Problem where
  | malformed
  | invalidType (found : Found) (expected : String)
  | invalidValue (found : Found) (expected : String)
  | invalidLength (length : Nat) (expected : String)
  | unknownField (name : String) (expected : List String)
  | missingField (name : String)
  | unnamedTool
  deriving DecidableEq, Repr

def inTicks (s : String) : String := "`" ++ s ++ "`"

def alternatives : List String → String
  | [a] => inTicks a
  | [a, b] => inTicks a ++ " or " ++ inTicks b
  | names => "one of " ++ ", ".intercalate (names.map inTicks)

def Problem.message : Problem → String
  | malformed => "TOML syntax error"
  | invalidType found expected => "invalid type: " ++ found.text ++ ", expected " ++ expected
  | invalidValue found expected => "invalid value: " ++ found.text ++ ", expected " ++ expected
  | invalidLength length expected =>
    "invalid length " ++ toString length ++ ", expected " ++ expected
  | unknownField name expected =>
    "unknown field " ++ inTicks name ++ ", expected " ++ alternatives expected
  | missingField name => "missing field " ++ inTicks name
  | unnamedTool => ToolCommand.unnamed

abbrev Decoded := Except Problem

def mismatch {α : Type} (v : Value) (expected : String) : Decoded α :=
  .error (.invalidType (found v) expected)

def string : Value → Decoded String
  | .string s => .ok s
  | v => mismatch v "a string"

def path : Value → Decoded Path
  | .string s => .ok ⟨s⟩
  | v => mismatch v "path string"

def amount : Value → Decoded Nat
  | .integer i => if i < 0 then .error (.invalidValue (.integer i) "u64") else .ok i.toNat
  | v => mismatch v "u64"

def list {α : Type} (element : Value → Decoded α) (v : Value) : Decoded (List α) :=
  match v.elements? with
  | some elements => elements.mapM element
  | none => mismatch v "a sequence"

def command (v : Value) : Decoded ToolCommand := do
  match ToolCommand.ofList? (← list string v) with
  | some command => .ok command
  | none => .error .unnamedTool

/-- The one key under which a date stands when it is taken for a table. -/
def dateTimeKey : String := "$__toml_private_datetime"

/-- The fields of a record with the given `names`. A sequence gives them by position. -/
def fields (record : String) (names : List String) (v : Value) : Decoded Entries :=
  match v with
  | .table _ entries => .ok entries
  | .dateTime => .ok [(dateTimeKey, .string "")]
  | v =>
    match v.elements? with
    | some elements => .ok (names.zip elements)
    | none => mismatch v ("struct " ++ record)

def record {α : Type} (name : String) (names : List String)
    (set : α → Value → String → Option (Decoded α)) (start : α) (v : Value) : Decoded α := do
  (← fields name names v).foldlM
    (fun a (key, v) => (set a v key).getD (.error (.unknownField key names))) start

def required {α : Type} (record : String) (names : List String) (v : Value) (name : String) :
    Option α → Decoded α
  | some a => .ok a
  | none =>
    match v.elements? with
    | some elements =>
      .error (.invalidLength elements.length
        ("struct " ++ record ++ " with " ++ toString names.length ++ " elements"))
    | none => .error (.missingField name)

def pathsConfig : Value → Decoded PathsConfig :=
  record "PathsConfig" ["constants", "probe_source", "listing", "compiled", "output_dir"]
    (fun c v key => match key with
      | "constants" => some do return { c with constants := ← path v }
      | "probe_source" => some do return { c with probeSource := ← path v }
      | "listing" => some do return { c with listing := ← path v }
      | "compiled" => some do return { c with compiled := ← path v }
      | "output_dir" => some do return { c with outputDir := ← path v }
      | _ => none)
    {}

def toolsConfig : Value → Decoded ToolsConfig :=
  record "ToolsConfig" ["blueprint", "sandbox"]
    (fun c v key => match key with
      | "blueprint" => some do return { c with blueprint := ← command v }
      | "sandbox" => some do return { c with sandbox := ← command v }
      | _ => none)
    {}

def probeConfig : Value → Decoded ProbeConfig :=
  record "ProbeConfig" ["name", "accessor", "deploy_value"]
    (fun c v key => match key with
      | "name" => some do return { c with name := ← string v }
      | "accessor" => some do return { c with accessor := ← string v }
      | "deploy_value" => some do return { c with deployValue := ← amount v }
      | _ => none)
    {}

def buildTarget (v : Value) : Decoded BuildTarget := do
  let names := ["name", "path"]
  let (name, path) ← record "BuildTarget" names
    (fun (name, path) v key => match key with
      | "name" => some do return (some (← string v), path)
      | "path" => some do return (name, some (← string v))
      | _ => none)
    ((none, none) : Option String × Option String) v
  let required := required "BuildTarget" names v
  return ⟨← required "name" name, ← required "path" path⟩

def profileEntry (v : Value) : Decoded ProfileEntry := do
  let names := ["token", "value", "env"]
  let (token, entry) ← record "ProfileEntry" names
    (fun (token, entry) v key => match key with
      | "token" => some do return (some (← string v), entry)
      | "value" => some do return (token, { entry with value := some (← string v) })
      | "env" => some do return (token, { entry with env := some (← string v) })
      | _ => none)
    ((none, { token := "" }) : Option String × ProfileEntry) v
  return { entry with token := ← required "ProfileEntry" names v "token" token }

def profiles : Value → Decoded Profiles :=
  record "ProfilesConfig"
    ["mainnet", "testnet", "test", "aggregator", "override_token", "override_value"]
    (fun c v key => match key with
      | "mainnet" => some do return { c with mainnet := ← list profileEntry v }
      | "testnet" => some do return { c with testnet := ← list profileEntry v }
      | "test" => some do return { c with test := ← list profileEntry v }
      | "aggregator" => some do return { c with aggregator := ← string v }
      | "override_token" => some do return { c with overrideToken := ← string v }
      | "override_value" => some do return { c with overrideValue := ← string v }
      | _ => none)
    .default

structure Sections where
  contracts : List String := Project.defaultContracts
  paths : PathsConfig := {}
  tools : ToolsConfig := {}
  probe : ProbeConfig := {}
  targets : List BuildTarget := Registry.defaultTargets
  profiles : Profiles := .default

def sections (document : Entries) : Decoded Sections :=
  record "RawConfig" ["contracts", "paths", "tools", "probe", "deploy_functions", "profiles"]
    (fun c v key => match key with
      | "contracts" => some do return { c with contracts := ← list string v }
      | "paths" => some do return { c with paths := ← pathsConfig v }
      | "tools" => some do return { c with tools := ← toolsConfig v }
      | "probe" => some do return { c with probe := ← probeConfig v }
      | "deploy_functions" => some do return { c with targets := ← list buildTarget v }
      | "profiles" => some do return { c with profiles := ← profiles v }
      | _ => none)
    {} (.table .header document)

def read (text : String) : Decoded Sections :=
  match document? text.toList with
  | some document => sections document
  | none => .error .malformed

def Sections.project (s : Sections) : Except Error Project := do
  let registry ← Registry.ofList s.targets
  return {
    paths := s.paths
    tools := s.tools
    probe := s.probe
    contracts := s.contracts
    registry
    profiles := s.profiles }

end DeployForge.Config
