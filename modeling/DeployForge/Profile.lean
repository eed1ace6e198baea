import DeployForge.Replacement

namespace DeployForge

inductive Profile where
  | mainnet
  | testnet
  | test
  deriving DecidableEq, Repr

namespace Profile

def all : List Profile := [mainnet, testnet, test]

def name : Profile → String
  | mainnet => "mainnet"
  | testnet => "testnet"
  | test => "test"

end Profile

structure ProfileEntry where
  token : String
  value : Option String := none
  env : Option String := none
  deriving DecidableEq, Repr

namespace ProfileEntry

/-- A value that is written out wins, and an unset variable is empty. -/
def resolve (lookup : String → Option String) (entry : ProfileEntry) : String :=
  match entry.value, entry.env with
  | some value, _ => value
  | none, some name => (lookup name).getD ""
  | none, none => ""

end ProfileEntry

def ReplacementSet.ofEntries (lookup : String → Option String) (entries : List ProfileEntry) :
    ReplacementSet :=
  ⟨entries.map fun entry => (literal entry.token, literal (entry.resolve lookup))⟩

structure Profiles where
  mainnet : List ProfileEntry
  testnet : List ProfileEntry
  test : List ProfileEntry
  aggregator : String
  overrideToken : String
  overrideValue : String
  deriving DecidableEq, Repr

namespace Profiles

def entries (profiles : Profiles) : Profile → List ProfileEntry
  | .mainnet => profiles.mainnet
  | .testnet => profiles.testnet
  | .test => profiles.test

def replacementSet (profiles : Profiles) (lookup : String → Option String) (profile : Profile) :
    ReplacementSet :=
  .ofEntries lookup (profiles.entries profile)

def overridden (profiles : Profiles) (base : ReplacementSet) : ReplacementSet :=
  base.override profiles.overrideToken profiles.overrideValue

def isAggregator (profiles : Profiles) (target : String) : Bool :=
  target.toList.map Char.toLower = profiles.aggregator.toList.map Char.toLower

end Profiles

end DeployForge
