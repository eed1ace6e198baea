import DeployForge.Site
import Mathlib.Tactic.Common

namespace DeployForge

variable {ε ε' α β : Type}

@[simp] lemma mapError_eq_ok {f : ε → ε'} {x : Except ε α} {a : α} :
    x.mapError f = .ok a ↔ x = .ok a := by
  cases x <;> simp [Except.mapError]

lemma mapError_eq_error {f : ε → ε'} {x : Except ε α} {e' : ε'} :
    x.mapError f = .error e' ↔ ∃ e, x = .error e ∧ f e = e' := by
  cases x <;> simp [Except.mapError]

lemma map_eq_ok {f : α → β} {x : Except ε α} {b : β} :
    x.map f = .ok b ↔ ∃ a, x = .ok a ∧ f a = b := by
  cases x <;> simp [Except.map]

lemma toOption_eq_some {x : Except ε α} {a : α} : x.toOption = some a ↔ x = .ok a := by
  cases x <;> simp [Except.toOption]

lemma bind_eq_ok {x : Except ε α} {f : α → Except ε β} {b : β} :
    (x >>= f) = .ok b ↔ ∃ a, x = .ok a ∧ f a = .ok b := by
  cases x with
  | error e => simp [bind, Except.bind]
  | ok a => simp [bind, Except.bind]

lemma bind_eq_error {x : Except ε α} {f : α → Except ε β} {e : ε} :
    (x >>= f) = .error e ↔ x = .error e ∨ ∃ a, x = .ok a ∧ f a = .error e := by
  cases x with
  | error e => simp [bind, Except.bind]
  | ok a => simp [bind, Except.bind]

namespace Work

variable {σ : Type}

lemma bind_apply (w : Work σ α) (f : α → Work σ β) (site : Site σ) :
    (w >>= f) site = match w site with | (result, after) => ExceptT.bindCont f result after :=
  rfl

lemma bind_of_error {w : Work σ α} {site after : Site σ} {e : Error}
    (h : w site = (.error e, after)) (f : α → Work σ β) : (w >>= f) site = (.error e, after) := by
  rw [bind_apply, h]
  rfl

lemma bind_of_ok {w : Work σ α} {site after : Site σ} {a : α}
    (h : w site = (.ok a, after)) (f : α → Work σ β) : (w >>= f) site = f a after := by
  rw [bind_apply, h]
  rfl

lemma bind_eq {w : Work σ α} {f : α → Work σ β} {site final : Site σ} {result : Except Error β} :
    (w >>= f) site = (result, final) ↔ (∃ e, w site = (.error e, final) ∧ result = .error e) ∨
      ∃ a after, w site = (.ok a, after) ∧ f a after = (result, final) := by
  rw [bind_apply]
  rcases w site with ⟨e | a, after⟩
  · constructor
    · intro h
      cases h
      exact .inl ⟨e, rfl, rfl⟩
    · rintro (⟨_, hw, rfl⟩ | ⟨_, _, hw, _⟩)
      · cases hw
        rfl
      · cases hw
  · constructor
    · intro h
      exact .inr ⟨a, after, rfl, h⟩
    · rintro (⟨_, hw, _⟩ | ⟨_, _, hw, h⟩)
      · cases hw
      · cases hw
        exact h

lemma bind_eq_ok {w : Work σ α} {f : α → Work σ β} {site final : Site σ} {b : β} :
    (w >>= f) site = (.ok b, final) ↔
      ∃ a after, w site = (.ok a, after) ∧ f a after = (.ok b, final) := by
  simp [bind_eq]

lemma bind_pure_apply (w : Work σ α) (f : α → β) (site : Site σ) :
    (w >>= fun a => pure (f a)) site = ((w site).1.map f, (w site).2) := by
  rw [bind_apply]
  rcases w site with ⟨e | a, after⟩
  · rfl
  · rfl

lemma onDisk_eq {action : Disk → Except Error α × Disk} {site final : Site σ}
    {result : Except Error α} : onDisk action site = (result, final) ↔
      action site.disk = (result, final.disk) ∧ final.outside = site.outside := by
  rw [onDisk]
  rcases action site.disk with ⟨r, d⟩
  constructor
  · intro h
    cases h
    exact ⟨rfl, rfl⟩
  · rintro ⟨h, houtside⟩
    obtain ⟨disk, outside⟩ := final
    cases h
    cases houtside
    rfl

lemma onDisk_of {action : Disk → Except Error α × Disk} {site : Site σ}
    {result : Except Error α} {disk : Disk} (h : action site.disk = (result, disk)) :
    onDisk action site = (result, { site with disk }) :=
  onDisk_eq.mpr ⟨h, rfl⟩

lemma readDisk_eq {action : Disk → Except Error α} {site final : Site σ}
    {result : Except Error α} : readDisk action site = (result, final) ↔
      action site.disk = result ∧ site = final := by
  rw [readDisk]
  constructor
  · intro h
    cases h
    exact ⟨rfl, rfl⟩
  · rintro ⟨rfl, rfl⟩
    rfl

lemma adapt_apply (f : Error → Error) (w : Work σ α) (site : Site σ) :
    ExceptT.adapt f w site = ((w site).1.mapError f, (w site).2) :=
  rfl

lemma lift_apply (x : Except Error α) (site : Site σ) :
    (liftM x : Work σ α) site = (x, site) := by
  cases x <;> rfl

end Work

end DeployForge
