import DeployForge.Proofs.Disk.ReadBack
import DeployForge.Transaction

/-!
A transaction leaves the constants as it found them, or says that it could not. All it can do is
listed once, with what the file holds at each turn.
-/

namespace DeployForge

namespace ConstantsGuard

variable {guard : ConstantsGuard}

lemma drop_of_not_pending (h : guard.isPending = false) (d : Disk) : guard.drop d = d := by
  rw [drop, h]
  rfl

lemma drop_of_pending (h : guard.isPending = true) (d : Disk) :
    guard.drop d = (guard.file.writeBack guard.snapshot d).2 := by
  rw [drop, if_pos h]

lemma restore_of_pending (h : guard.isPending = true) (d : Disk) :
    guard.restore d = guard.file.writeBack guard.snapshot d := by
  rw [restore, if_pos h]
  cases guard.file.writeBack guard.snapshot d with
  | mk result d' => exact congrArg (result, ·) (drop_of_not_pending rfl d')

end ConstantsGuard

namespace ConstantsFile

variable {σ κ α : Type}

/-- How a step ended, seen by a caller whose constants could not be written back after it. -/
def unrestored (file : ConstantsFile) (e : IoError) : Ended κ α → Ended κ α
  | .returned _ => .returned (.error (.restore file.path e))
  | .crashed cause => .crashed cause

lemma writeBack_ok {file : ConstantsFile} {original : String} {d d' : Disk}
    (h : d.writeText file.path original = (.ok (), d')) :
    file.writeBack original d = (.ok (), d') := by
  rw [writeBack, h]

lemma writeBack_error {file : ConstantsFile} {original : String} {d d' : Disk} {e : IoError}
    (h : d.writeText file.path original = (.error e, d')) :
    file.writeBack original d = (.error (.restore file.path e), d') := by
  rw [writeBack, h]

lemma snapshot_ok {file : ConstantsFile} {original : String} {d : Disk}
    (h : d.readText file.path = .ok original) : file.snapshot d = .ok original := by
  rw [snapshot, h]
  rfl

lemma snapshot_error {file : ConstantsFile} {d : Disk} {e : IoError}
    (h : d.readText file.path = .error e) : file.snapshot d = .error (.read file.path e) := by
  rw [snapshot, h]
  rfl

inductive Prepared (file : ConstantsFile) (set : ReplacementSet) (d : Disk) :
    Except Error ConstantsGuard × Disk → Prop
  | unread {e} : d.readText file.path = .error e →
      Prepared file set d (.error (.read file.path e), d)
  | written {original d₁} : d.readText file.path = .ok original →
      d.writeText file.path (set.apply original) = (.ok (), d₁) →
      d₁.readText file.path = .ok (set.apply original) →
      Prepared file set d (.ok { file, snapshot := original }, d₁)
  | rolledBack {original e d₁ d₂} : d.readText file.path = .ok original →
      d.writeText file.path (set.apply original) = (.error e, d₁) →
      d₁.writeText file.path original = (.ok (), d₂) →
      d₂.readText file.path = .ok original →
      Prepared file set d (.error (.write file.path e), d₂)
  | lost {original e e' d₁ d₂} : d.readText file.path = .ok original →
      d.writeText file.path (set.apply original) = (.error e, d₁) →
      d₁.writeText file.path original = (.error e', d₂) →
      Prepared file set d (.error (.restore file.path e'), d₂)

lemma prepared (file : ConstantsFile) (set : ReplacementSet) (d : Disk) :
    Prepared file set d (file.prepare set d) := by
  rw [prepare]
  cases hr : d.readText file.path with
  | error e =>
    rw [snapshot_error hr]
    exact .unread hr
  | ok original =>
    rw [snapshot_ok hr]
    cases hw : d.writeText file.path (set.apply original) with
    | mk result d₁ =>
      cases result with
      | ok _ =>
        simp only [hw]
        exact .written hr hw (Disk.readText_of_writeText hw)
      | error e =>
        cases hb : d₁.writeText file.path original with
        | mk back d₂ =>
          cases back with
          | ok _ =>
            simp only [hw, writeBack_ok hb]
            exact .rolledBack hr hw hb (Disk.readText_of_writeText hb)
          | error e' =>
            simp only [hw, writeBack_error hb]
            exact .lost hr hw hb

lemma Prepared.prepare_eq {file : ConstantsFile} {set : ReplacementSet} {d : Disk}
    {result : Except Error ConstantsGuard × Disk} (h : Prepared file set d result) :
    file.prepare set d = result := by
  cases h with
  | unread hread => rw [prepare, snapshot_error hread]
  | written hread hwrite _ =>
    rw [prepare, snapshot_ok hread]
    simp only [hwrite]
  | rolledBack hread hwrite hback _ =>
    rw [prepare, snapshot_ok hread]
    simp only [hwrite, writeBack_ok hback]
  | lost hread hwrite hback =>
    rw [prepare, snapshot_ok hread]
    simp only [hwrite, writeBack_error hback]

/-- All that a transaction can do, with what the file holds at each turn. -/
inductive Course (file : ConstantsFile) (set : ReplacementSet)
    (step : Site σ → Ended κ α × Site σ) (site : Site σ) : Ended κ α × Site σ → Prop
  | refused {e d} : Prepared file set site.disk (.error e, d) →
      Course file set step site (.returned (.error e), { site with disk := d })
  | restored {original d₁ ended after d₂} :
      Prepared file set site.disk (.ok { file, snapshot := original }, d₁) →
      step { site with disk := d₁ } = (ended, after) →
      after.disk.writeText file.path original = (.ok (), d₂) →
      d₂.readText file.path = .ok original →
      Course file set step site (ended, { after with disk := d₂ })
  | lost {original d₁ ended after e d₂} :
      Prepared file set site.disk (.ok { file, snapshot := original }, d₁) →
      step { site with disk := d₁ } = (ended, after) →
      after.disk.writeText file.path original = (.error e, d₂) →
      Course file set step site (file.unrestored e ended, { after with disk := d₂ })

lemma settle_ok {file : ConstantsFile} {original : String} {after : Site σ} {d : Disk}
    (h : after.disk.writeText file.path original = (.ok (), d)) (ended : Ended κ α) :
    settle { file, snapshot := original } after ended = (ended, { after with disk := d }) := by
  cases ended with
  | returned result => rw [settle, ConstantsGuard.restore_of_pending rfl, writeBack_ok h]
  | crashed cause => rw [settle, ConstantsGuard.drop_of_pending rfl, writeBack_ok h]

lemma settle_error {file : ConstantsFile} {original : String} {after : Site σ} {d : Disk}
    {e : IoError} (h : after.disk.writeText file.path original = (.error e, d))
    (ended : Ended κ α) :
    settle { file, snapshot := original } after ended =
      (file.unrestored e ended, { after with disk := d }) := by
  cases ended with
  | returned result =>
    rw [settle, ConstantsGuard.restore_of_pending rfl, writeBack_error h, unrestored]
  | crashed cause =>
    rw [settle, ConstantsGuard.drop_of_pending rfl, writeBack_error h, unrestored]

lemma course (file : ConstantsFile) (set : ReplacementSet)
    (step : Site σ → Ended κ α × Site σ) (site : Site σ) :
    Course file set step site (file.transaction set step site) := by
  have hp := prepared file set site.disk
  rw [transaction]
  cases hprepare : file.prepare set site.disk with
  | mk result d₁ =>
    rw [hprepare] at hp
    cases result with
    | error e => exact .refused hp
    | ok guard =>
      obtain ⟨original, rfl⟩ : ∃ original, guard = { file, snapshot := original } := by
        cases hp
        exact ⟨_, rfl⟩
      cases hs : step { site with disk := d₁ } with
      | mk ended after =>
        cases hb : after.disk.writeText file.path original with
        | mk back d₂ =>
          cases back with
          | ok _ =>
            simp only [hs, settle_ok hb]
            exact .restored hp hs hb (Disk.readText_of_writeText hb)
          | error e =>
            simp only [hs, settle_error hb]
            exact .lost hp hs hb

/-- The step may keep count of its own runs in what is outside, and every write may leave the file
as it was or cut short. Nothing comes after the one write of the original content that ends each
way through. -/
theorem transaction_atomic (file : ConstantsFile) (set : ReplacementSet)
    (step : Site σ → Ended κ α × Site σ) (site : Site σ) :
    match site.disk.readText file.path with
    | .error e =>
      file.transaction set step site = (.returned (.error (.read file.path e)), site)
    | .ok original =>
      match site.disk.writeText file.path (set.apply original) with
      | (.error e, d) =>
        match d.writeText file.path original with
        | (.ok (), d') =>
          d'.readText file.path = .ok original ∧
          file.transaction set step site =
            (.returned (.error (.write file.path e)), { site with disk := d' })
        | (.error e', d') =>
          file.transaction set step site =
            (.returned (.error (.restore file.path e')), { site with disk := d' })
      | (.ok (), d) =>
        d.readText file.path = .ok (set.apply original) ∧
        match step { site with disk := d } with
        | (ended, after) =>
          match after.disk.writeText file.path original, ended with
          | (.ok (), d'), _ =>
            d'.readText file.path = .ok original ∧
            file.transaction set step site = (ended, { after with disk := d' })
          | (.error e, d'), .returned _ =>
            file.transaction set step site =
              (.returned (.error (.restore file.path e)), { after with disk := d' })
          | (.error _, d'), .crashed cause =>
            file.transaction set step site = (.crashed cause, { after with disk := d' }) := by
  have hcourse := course file set step site
  generalize file.transaction set step site = run at hcourse ⊢
  cases hcourse with
  | refused hp =>
    cases hp with
    | unread hread => simp only [hread]
    | rolledBack hread hwrite hback hkept => simp only [hread, hwrite, hback, hkept, and_self]
    | lost hread hwrite hback => simp only [hread, hwrite, hback]
  | restored hp hstep hback hkept =>
    cases hp with
    | written hread hwrite hseen =>
      simp only [hread, hwrite, hseen, hstep, hback, hkept, and_self]
  | @lost original d₁ ended after e d₂ hp hstep hback =>
    cases hp with
    | written hread hwrite hseen =>
      simp only [hread, hwrite, hseen, hstep, hback, true_and]
      cases ended <;> rfl

end ConstantsFile

end DeployForge
