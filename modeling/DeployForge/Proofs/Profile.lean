import DeployForge.Config
import Mathlib.Tactic.Common

namespace DeployForge

/-- The value that is written out, or that of the variable an entry names. The environment goes
before the project's own file, and what neither has is empty. -/
def ProfileEntry.valueAmong (environment dotenv : Variables) : ProfileEntry → String
  | ⟨_, some value, _⟩ => value
  | ⟨_, none, none⟩ => ""
  | ⟨_, none, some name⟩ =>
    match environment.value? name, dotenv.lookup name with
    | some value, _ => value
    | none, some value => value
    | none, none => ""

namespace Project

variable (project : Project) (environment : Variables) (profile : Profile)

def listed : List ProfileEntry :=
  match profile with
  | .mainnet => project.profiles.mainnet
  | .testnet => project.profiles.testnet
  | .test => project.profiles.test

def configured : ReplacementSet :=
  ⟨(project.listed profile).map fun entry =>
    ("\"" ++ entry.token ++ "\"", "\"" ++ entry.valueAmong environment project.dotenv ++ "\"")⟩

lemma resolve_lookup (entry : ProfileEntry) :
    entry.resolve (project.lookup environment) = entry.valueAmong environment project.dotenv := by
  obtain ⟨token, value | value, env | name⟩ := entry
  · rfl
  · simp only [ProfileEntry.resolve, ProfileEntry.valueAmong, lookup]
    cases environment.value? name <;> cases project.dotenv.lookup name <;> rfl
  · rfl
  · rfl

lemma replacementSet_eq :
    project.replacementSet environment profile = project.configured environment profile := by
  have hentries : project.profiles.entries profile = project.listed profile := by
    cases profile <;> rfl
  simp only [replacementSet, Profiles.replacementSet, ReplacementSet.ofEntries, hentries,
    resolve_lookup, literal, configured]

end Project

end DeployForge
