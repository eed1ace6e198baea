import DeployForge.Error
import Std.Data.TreeMap

/-!
Named targets, listed in the order of their declaration, and looked up by name through an index
that tells at which place of the list a name stands.
-/

namespace DeployForge

structure BuildTarget where
  name : String
  path : String
  deriving DecidableEq, Repr

def BuildTarget.functionName (target : BuildTarget) : String := "deploy" ++ target.name

abbrev Registry.Index := Std.TreeMap String Nat

namespace Registry.Index

/-- A name is found exactly at the place where it stands among `names`. -/
def Finds (index : Index) (names : List String) : Prop :=
  ∀ (name : String) (i : Nat), index[name]? = some i ↔ names[i]? = some name

def enter (index : Index) (i : Nat) : List String → Except String Index
  | [] => .ok index
  | name :: rest =>
    if name ∈ index then .error name else enter (index.insert name i) (i + 1) rest

variable {index index' : Index} {names seen : List String} {name : String} {i : Nat}

theorem finds_empty : Finds ∅ [] := by
  intro name i
  simp

theorem Finds.mem_iff (h : index.Finds names) : name ∈ index ↔ name ∈ names := by
  rw [Std.TreeMap.mem_iff_isSome_getElem?, Option.isSome_iff_exists, List.mem_iff_getElem?]
  exact exists_congr (h name)

theorem Finds.lt_length (h : index.Finds names) (hi : index[name]? = some i) :
    i < names.length := by
  obtain ⟨hlt, _⟩ := List.getElem?_eq_some_iff.mp ((h name i).mp hi)
  exact hlt

/-- A name that stood at two places would be found at both. -/
theorem Finds.nodup (h : index.Finds names) : names.Nodup := by
  rw [List.Nodup, List.pairwise_iff_getElem]
  intro i j hi hj hlt heq
  have hfirst := (h names[i] i).mpr (List.getElem?_eq_getElem hi)
  have hsecond := (h names[i] j).mpr (heq ▸ List.getElem?_eq_getElem hj)
  rw [hfirst, Option.some_inj] at hsecond
  omega

theorem Finds.insert (h : index.Finds seen) (hname : name ∉ seen) :
    Finds (Std.TreeMap.insert index name seen.length) (seen ++ [name]) := by
  intro other i
  by_cases hother : name = other
  · subst hother
    have hnone : seen[i]? ≠ some name := fun hi => hname (List.mem_of_getElem? hi)
    rw [Std.TreeMap.getElem?_insert_self, Option.some_inj]
    grind
  · have hne : compare name other ≠ .eq := fun heq => hother (Std.LawfulEqCmp.eq_of_compare heq)
    rw [Std.TreeMap.getElem?_insert, if_neg hne, h other i]
    grind

theorem Finds.enter (h : index.Finds seen) (henter : index.enter seen.length names = .ok index') :
    index'.Finds (seen ++ names) := by
  induction names generalizing index seen with
  | nil =>
    cases henter
    rwa [List.append_nil]
  | cons name rest ih =>
    rw [Index.enter] at henter
    split at henter
    · cases henter
    · next hname =>
      have hlength : (seen ++ [name]).length = seen.length + 1 := by simp
      rw [List.append_cons]
      rw [h.mem_iff] at hname
      exact ih (h.insert hname) (hlength ▸ henter)

end Registry.Index

structure Registry where
  targets : List BuildTarget
  index : Registry.Index
  finds : index.Finds (targets.map (·.name))

namespace Registry

def empty : Registry := ⟨[], ∅, Index.finds_empty⟩

def ofList (targets : List BuildTarget) : Except Error Registry :=
  match h : Index.enter ∅ 0 (targets.map (·.name)) with
  | .error name => .error (.config ("duplicate deploy function target '" ++ name ++ "'"))
  | .ok index => .ok ⟨targets, index, Index.finds_empty.enter h⟩

def names (r : Registry) : List String := r.targets.map (·.name)

theorem nodup (r : Registry) : r.names.Nodup := r.finds.nodup

theorem lt_length (r : Registry) {name : String} {i : Nat} (h : r.index[name]? = some i) :
    i < r.targets.length := by
  have hlt := r.finds.lt_length h
  rwa [List.length_map] at hlt

/-- The index leads to no place outside the list. -/
def find? (r : Registry) (name : String) : Option BuildTarget :=
  match h : r.index[name]? with
  | some i => some (r.targets.get ⟨i, r.lt_length h⟩)
  | none => none

def get (r : Registry) (name : String) : Except Error BuildTarget :=
  match r.find? name with
  | some target => .ok target
  | none => .error (.unknownTarget name (", ".intercalate r.names))

end Registry

end DeployForge
