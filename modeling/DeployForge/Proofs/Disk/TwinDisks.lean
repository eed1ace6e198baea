import DeployForge.Proofs.Disk.Twins

namespace DeployForge

/-- The same result, and what is left is related after a success. -/
structure Agree {ε α δ : Type} (Q : α → δ → δ → Prop) (x x' : Except ε α × δ) : Prop where
  result : x.1 = x'.1
  related : ∀ a, x.1 = .ok a → Q a x.2 x'.2

namespace Agree

variable {ε ε' α δ : Type} {Q : α → δ → δ → Prop} {x x' : Except ε α × δ} {a : α} {s s' : δ}

lemma error (e : ε) (s s' : δ) : Agree Q (.error e, s) (.error e, s') := ⟨rfl, nofun⟩

lemma ok (h : Q a s s') : Agree Q ((.ok a : Except ε α), s) (.ok a, s') := by
  refine ⟨rfl, fun b hb => ?_⟩
  cases hb
  exact h

lemma mapError (h : Agree Q x x') (f : ε → ε') :
    Agree Q (x.1.mapError f, x.2) (x'.1.mapError f, x'.2) :=
  ⟨congrArg (·.mapError f) h.result, fun a ha => h.related a (mapError_eq_ok.mp ha)⟩

lemma error_or_ok (h : Agree Q x x') :
    (∃ e s s', x = (.error e, s) ∧ x' = (.error e, s')) ∨
      ∃ a s s', x = (.ok a, s) ∧ x' = (.ok a, s') ∧ Q a s s' := by
  obtain ⟨result, s⟩ := x
  obtain ⟨result', s'⟩ := x'
  obtain rfl : result = result' := h.result
  cases result with
  | error e => exact .inl ⟨e, s, s', rfl, rfl⟩
  | ok a => exact .inr ⟨a, s, s', rfl, rfl, h.related a rfl⟩

end Agree

structure Disk.Twins (T : Terrain) (known : List Location) (d d' : Disk) : Prop where
  place : d.place = T.place
  place' : d'.place = T.place
  medium : d.medium = d'.medium
  writes : d.writes = d'.writes
  held : ∀ p ∈ T.stale, d'.held (p.location T.place) = d.held (p.location T.place)
  removable : ∀ p ∈ T.stale, d.held (p.location T.place) = none ∨ T.same (p.location T.place)
  tree : d.tree.Twins T known d'.tree

def Terrain.settled (T : Terrain) : Terrain :=
  { T with same := fun k => T.same k ∨ k ∈ T.dir.inside T.place }

namespace Disk

variable {T : Terrain} {known : List Location} {d d' : Disk} {p : Path}

/-- Puts a file where a path leads, in directories that are made for it, if it can be put there. -/
def put (d : Disk) (p : Path) (content : ByteArray) : Disk :=
  let tree := (d.tree.createChain false false (p.start d.place) p.names.dropLast).2
  match tree.target d.place p with
  | .error _ => { d with tree }
  | .ok (l, runnable) => { d with tree := tree.insert l (.file content runnable) }

namespace Twins

lemma read_eq (h : d.Twins T known d') (hp : p ∈ T.files) (hleads : T.Fixed p ∨ T.loose p)
    (hk : p.location T.place ∈ known) : d.read p = d'.read p := by
  rw [Disk.read, Disk.read, h.place, h.place']
  exact h.tree.read_eq hp hleads hk

lemma readText_eq (h : d.Twins T known d') (hp : p ∈ T.files) (hleads : T.Fixed p ∨ T.loose p)
    (hk : p.location T.place ∈ known) : d.readText p = d'.readText p := by
  rw [readText, readText, h.read_eq hp hleads hk]

lemma write (h : d.Twins T known d') (hp : p ∈ T.files) (hfixed : T.Fixed p)
    (content : ByteArray) :
    Agree (fun _ => Twins T (p.location T.place :: known)) (d.write p content)
      (d'.write p content) := by
  rw [Disk.write, Disk.write, h.place, h.place']
  rcases h.tree.target_cases hp hfixed with ⟨e, he, he'⟩ | ⟨r, r', hr, hr'⟩
  · rw [he, he']
    exact .error e d d'
  · simp only [hr, hr', store, ← h.medium, ← h.writes]
    cases d.medium d.writes content with
    | some fault =>
      obtain ⟨kept, e⟩ := fault
      cases kept <;> exact .error _ _ _
    | none =>
      exact .ok ⟨h.place, h.place', rfl, rfl, h.held, h.removable,
        h.tree.insert_file hp content hr hr'⟩

lemma createDirectories (h : d.Twins T known d')
    (hdir : (∀ k ∈ T.dir.inside T.place, T.same k) ∨ T.looseDir) :
    Agree (fun _ => Twins T.settled known) (d.createDirectories T.dir)
      (d'.createDirectories T.dir) := by
  obtain ⟨hresult, hmade⟩ := h.tree.createDirectories hdir
  rw [Disk.createDirectories, Disk.createDirectories, h.place, h.place']
  refine ⟨hresult, fun _ hok => ?_⟩
  obtain ⟨htwins, hkind⟩ := hmade hok
  exact ⟨rfl, rfl, h.medium, h.writes, h.held, fun p hp => (h.removable p hp).imp_right .inl,
    fun k hk => hk.elim (htwins.kinds k) (hkind k), htwins.contents, htwins.files, htwins.loose,
    htwins.dir⟩

lemma put (h : d.Twins T known d') (hp : p ∈ T.files) (hleads : T.Fixed p ∨ T.loose p)
    (content : ByteArray) : (d.put p content).Twins T known (d'.put p content) := by
  have hforget : ∀ k ∈ known, k ∈ p.location T.place :: known :=
    fun k hk => List.mem_cons_of_mem _ hk
  rw [Disk.put, Disk.put, h.place, h.place']
  rcases hleads with hfixed | hloose
  · have hchain := (h.tree.createChain false false fun k hk =>
      ⟨hfixed k (Path.mem_placesFrom_dropLast hk), fun q hq hloose heq =>
        (T.apart p hp q hq hloose).2 (heq ▸ Path.mem_placesFrom_dropLast hk)⟩).2
    rcases hchain.target_cases hp hfixed with ⟨e, he, he'⟩ | ⟨r, r', hr, hr'⟩
    · simp only [he, he']
      exact ⟨rfl, rfl, h.medium, h.writes, h.held, h.removable, hchain⟩
    · simp only [hr, hr']
      exact ⟨rfl, rfl, h.medium, h.writes, h.held, h.removable,
        (hchain.insert_file hp content hr hr').mono hforget⟩
  -- Other directories may be missing on the two sides. Afterwards none is on either.
  · obtain ⟨⟨ho, hm⟩, ho', hm'⟩ := h.tree.loose p hp hloose
    have hplaces : ∀ q ∈ T.files, q.location T.place ∉
        Path.placesFrom (p.start T.place) (p.names.dropLast ++ [".."]) :=
      fun q hq hk => (T.apart q hq p hp hloose).1 (Path.mem_placesFrom_dropLast hk)
    obtain ⟨hf, ht⟩ := ho.createChain hm.ne_directory (hplaces p hp)
    obtain ⟨hf', ht'⟩ := ho'.createChain hm'.ne_directory (hplaces p hp)
    have hchain := h.tree.furnish hf hf' hplaces
    obtain ⟨r, hr⟩ := ht.target_eq
    obtain ⟨r', hr'⟩ := ht'.target_eq
    simp only [hr, hr']
    exact ⟨rfl, rfl, h.medium, h.writes, h.held, h.removable,
      (hchain.insert_file hp content hr hr').mono hforget⟩

end Twins

end Disk

end DeployForge
