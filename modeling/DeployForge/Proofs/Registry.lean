import DeployForge.Registry
import Mathlib.Data.List.Induction
import Mathlib.Data.List.Nodup
import Mathlib.Tactic.Common

/-!
What is registered under a name, and which targets make no registry. The index of a registry and
the list of its targets stay in step while it is built.
-/

namespace DeployForge.Registry

section Lookup

variable {r : Registry} {name : String} {target : BuildTarget} {i : ℕ}

lemma find?_eq (r : Registry) (name : String) :
    r.find? name = r.index[name]?.bind (r.targets[·]?) := by
  rw [find?]
  split
  · next i h =>
    have htarget := List.getElem?_eq_getElem (r.lt_length h)
    simp only [h, Option.bind_some, htarget]
    rfl
  · next h => simp only [h, Option.bind_none]

lemma index_eq_some_iff :
    r.index[name]? = some i ↔ ∃ target, r.targets[i]? = some target ∧ target.name = name := by
  rw [r.finds name i, List.getElem?_map, Option.map_eq_some_iff]

lemma find?_eq_some_iff :
    r.find? name = some target ↔ target ∈ r.targets ∧ target.name = name := by
  rw [find?_eq, Option.bind_eq_some_iff]
  constructor
  · rintro ⟨i, hindex, htarget⟩
    obtain ⟨found, hfound, hname⟩ := index_eq_some_iff.mp hindex
    obtain rfl := Option.some_inj.mp (htarget.symm.trans hfound)
    exact ⟨List.mem_of_getElem? htarget, hname⟩
  · rintro ⟨hmem, hname⟩
    obtain ⟨i, htarget⟩ := List.mem_iff_getElem?.mp hmem
    exact ⟨i, index_eq_some_iff.mpr ⟨target, htarget, hname⟩, htarget⟩

lemma find?_eq_none_iff : r.find? name = none ↔ name ∉ r.names := by
  rw [Option.eq_none_iff_forall_ne_some, names, List.mem_map, not_exists]
  exact forall_congr' fun target => not_congr find?_eq_some_iff

lemma get_eq_ok_iff : r.get name = .ok target ↔ target ∈ r.targets ∧ target.name = name := by
  rw [← find?_eq_some_iff, get]
  cases r.find? name <;> simp

lemma get_eq_error_iff {e : Error} : r.get name = .error e ↔
    name ∉ r.names ∧ e = .unknownTarget name (", ".intercalate r.names) := by
  rw [← find?_eq_none_iff, get]
  cases r.find? name <;> simp [eq_comm]

lemma filter_name_eq_iff :
    r.targets.filter (·.name = name) = [target] ↔ target ∈ r.targets ∧ target.name = name := by
  constructor
  · intro h
    have hmem : target ∈ r.targets.filter (·.name = name) := h ▸ List.mem_singleton_self target
    simpa using hmem
  · rintro ⟨hmem, rfl⟩
    have hnodup : (r.targets.filter (·.name = target.name)).Nodup := r.nodup.of_map.filter _
    rw [← List.perm_singleton, List.perm_ext_iff_of_nodup hnodup (List.nodup_singleton target)]
    intro other
    rw [List.mem_filter, List.mem_singleton, decide_eq_true_eq]
    constructor
    · rintro ⟨hother, hname⟩
      exact List.inj_on_of_nodup_map r.nodup hother hmem hname
    · rintro rfl
      exact ⟨hmem, rfl⟩

end Lookup

section Building

variable {index : Index} {seen early late names : List String} {name : String}
  {targets : List BuildTarget}

def FirstRepeat (names : List String) (name : String) : Prop :=
  ∃ early late, names = early ++ name :: late ∧ early.Nodup ∧ name ∈ early

lemma exists_firstRepeat (h : ¬ names.Nodup) : ∃ name, FirstRepeat names name := by
  induction names using List.reverseRecOn with
  | nil => exact absurd List.nodup_nil h
  | append_singleton names name ih =>
    by_cases hnodup : names.Nodup
    · have hmem : name ∈ names := by
        by_contra hnone
        exact h (List.concat_eq_append ▸ List.Nodup.concat hnone hnodup)
      exact ⟨name, names, [], rfl, hnodup, hmem⟩
    · obtain ⟨first, early, late, rfl, hfirst⟩ := ih hnodup
      exact ⟨first, early, late ++ [name], by simp, hfirst⟩

lemma Index.Finds.enter_append (h : index.Finds seen) (hnodup : (seen ++ early).Nodup)
    (late : List String) : ∃ index' : Index, index'.Finds (seen ++ early) ∧
      index.enter seen.length (early ++ late) =
        index'.enter (seen ++ early).length late := by
  induction early generalizing index seen with
  | nil => exact ⟨index, by rwa [List.append_nil], by rw [List.append_nil, List.nil_append]⟩
  | cons name early ih =>
    rw [List.append_cons] at hnodup ⊢
    have hname : name ∉ index := by
      rw [h.mem_iff]
      intro hmem
      exact List.disjoint_of_nodup_append hnodup.of_append_left hmem (List.mem_singleton_self name)
    obtain ⟨index', hfinds, henter⟩ := ih (h.insert (h.mem_iff.not.mp hname)) hnodup
    refine ⟨index', hfinds, ?_⟩
    rw [← henter, List.cons_append, Index.enter, if_neg hname, List.length_append,
      List.length_singleton]

lemma exists_enter_eq_ok (h : names.Nodup) : ∃ index, Index.enter ∅ 0 names = .ok index := by
  have hnodup : ([] ++ names).Nodup := h
  obtain ⟨index, _, henter⟩ := Index.finds_empty.enter_append hnodup []
  exact ⟨index, by simpa [Index.enter] using henter⟩

lemma FirstRepeat.enter_eq (h : FirstRepeat names name) :
    Index.enter ∅ 0 names = .error name := by
  obtain ⟨early, late, rfl, hnodup, hmem⟩ := h
  obtain ⟨index, hfinds, henter⟩ := Index.finds_empty.enter_append hnodup (name :: late)
  rw [List.nil_append, Index.enter, if_pos (hfinds.mem_iff.mpr hmem)] at henter
  exact henter

lemma exists_ofList_eq_ok (h : (targets.map (·.name)).Nodup) :
    ∃ r, ofList targets = .ok r := by
  obtain ⟨index, henter⟩ := exists_enter_eq_ok h
  rw [ofList]
  split
  · next hrepeat => cases henter.symm.trans hrepeat
  · exact ⟨_, rfl⟩

lemma FirstRepeat.ofList_eq (h : FirstRepeat (targets.map (·.name)) name) :
    ofList targets = .error (.config ("duplicate deploy function target '" ++ name ++ "'")) := by
  rw [ofList]
  split
  · next hrepeat =>
    cases h.enter_eq.symm.trans hrepeat
    rfl
  · next hindex => cases h.enter_eq.symm.trans hindex

lemma targets_of_ofList {r : Registry} (h : ofList targets = .ok r) : r.targets = targets := by
  rw [ofList] at h
  split at h
  · cases h
  · cases h
    rfl

/-- All that is asked of a registry is answered from `targets`, in their order. -/
structure Lists (r : Registry) (targets : List BuildTarget) : Prop where
  order : r.targets = targets
  names : r.names = targets.map (·.name)
  place : ∀ (name : String) (i : ℕ), r.index[name]? = some i ↔
    ∃ target, targets[i]? = some target ∧ target.name = name
  found : ∀ name target, r.get name = .ok target ↔ targets.filter (·.name = name) = [target]
  unknown : ∀ name e, r.get name = .error e ↔ (∀ target ∈ targets, target.name ≠ name) ∧
    e = .unknownTarget name (", ".intercalate (targets.map (·.name)))

lemma lists_targets (r : Registry) : r.Lists r.targets where
  order := rfl
  names := rfl
  place _ _ := index_eq_some_iff
  found _ _ := get_eq_ok_iff.trans filter_name_eq_iff.symm
  unknown name e := by
    rw [get_eq_error_iff, Registry.names, List.mem_map]
    simp only [not_exists, not_and, ne_eq]

/-- Targets make a registry exactly when their names are distinct, and it is the first repeated
name that is reported. -/
theorem ofList_iff_distinct (targets : List BuildTarget) :
    ((∃ r, ofList targets = .ok r) ↔ (targets.map (·.name)).Nodup) ∧
      (∀ e, ofList targets = .error e ↔ ∃ name, FirstRepeat (targets.map (·.name)) name ∧
        e = .config ("duplicate deploy function target '" ++ name ++ "'")) ∧
      ∀ r, ofList targets = .ok r → r.Lists targets := by
  have hlists (r : Registry) (h : ofList targets = .ok r) : r.Lists targets :=
    targets_of_ofList h ▸ r.lists_targets
  refine ⟨⟨?_, exists_ofList_eq_ok⟩, fun e => ⟨fun h => ?_, ?_⟩, hlists⟩
  · rintro ⟨r, h⟩
    rw [← (hlists r h).names]
    exact r.nodup
  · have hnodup : ¬ (targets.map (·.name)).Nodup := by
      intro hnodup
      obtain ⟨r, hok⟩ := exists_ofList_eq_ok hnodup
      cases hok.symm.trans h
    obtain ⟨name, hfirst⟩ := exists_firstRepeat hnodup
    exact ⟨name, hfirst, Except.error.inj (h.symm.trans hfirst.ofList_eq)⟩
  · rintro ⟨name, hfirst, rfl⟩
    exact hfirst.ofList_eq

-- Two names come up again, and the one that does so first is reported.
example : ofList [⟨"A", "a"⟩, ⟨"B", "b"⟩, ⟨"B", "c"⟩, ⟨"A", "d"⟩] =
    .error (.config "duplicate deploy function target 'B'") :=
  rfl

end Building

end DeployForge.Registry
