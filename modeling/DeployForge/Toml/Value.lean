import DeployForge.Decimal.Shortest

/-! The values of a TOML document. Tables keep the order in which their keys were written. -/

namespace DeployForge.Toml

inductive Real where
  | nan
  | infinite (negative : Bool)
  | finite (negative : Bool) (magnitude : Decimal.Binary)
  deriving DecidableEq, Repr

def Real.text : Real → String
  | nan => "NaN"
  | infinite negative => if negative then "-inf" else "inf"
  | finite negative magnitude =>
    (if negative then "-" else "") ++ (Decimal.shortest magnitude).positional

/-- How a table came to be, which decides what may still be added to it. -/
inductive TableKind where
  | header
  | implied
  | dotted
  | inlined
  deriving DecidableEq, Repr

inductive Value where
  | string (s : String)
  | integer (i : Int)
  | real (r : Real)
  | boolean (b : Bool)
  | dateTime
  | array (elements : List Value)
  | tables (elements : List (List (String × Value)))
  | table (kind : TableKind) (entries : List (String × Value))

abbrev Entries := List (String × Value)

namespace Value

def elements? : Value → Option (List Value)
  | array elements => some elements
  | tables elements => some (elements.map (table .header ·))
  | _ => none

end Value

end DeployForge.Toml
