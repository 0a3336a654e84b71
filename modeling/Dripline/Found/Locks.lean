import Mathlib.Data.Nat.Notation
import Mathlib.Logic.Function.Basic

/-!
# Locks by name

A registry makes a lock the first time a name is asked for, and gives the same lock to whoever asks
later, until the name is dropped. A lock has one holder at a time.
-/

namespace Dripline.Found.Locks

open Function

/-- The lock of each name, how many were made, who holds each, and what each task has asked for. -/
structure Registry (τ κ : Type*) where
  locks : κ → Option ℕ
  made : ℕ
  holder : ℕ → Option τ
  claims : τ → Option (κ × ℕ)

variable {τ κ : Type*}

namespace Registry

/-- No lock was made yet. -/
def empty : Registry τ κ := ⟨fun _ => none, 0, fun _ => none, fun _ => none⟩

variable (registry : Registry τ κ) (task : τ) (name : κ)

/-- A task asks for the lock of a name; it has one claim at a time. -/
def request [DecidableEq τ] [DecidableEq κ] : Registry τ κ :=
  match registry.claims task, registry.locks name with
  | some _, _ => registry
  | none, some lock =>
    { registry with claims := Function.update registry.claims task (some (name, lock)) }
  | none, none =>
    { registry with
      locks := Function.update registry.locks name (some registry.made)
      made := registry.made + 1
      claims := Function.update registry.claims task (some (name, registry.made)) }

/-- A task takes the lock it has asked for, if nobody holds it. -/
def enter : Registry τ κ :=
  match registry.claims task with
  | some (_, lock) =>
    match registry.holder lock with
    | none => { registry with holder := Function.update registry.holder lock (some task) }
    | some _ => registry
  | none => registry

/-- A task gives its claim up, and the lock with it. -/
def leave [DecidableEq τ] : Registry τ κ :=
  match registry.claims task with
  | some (_, lock) =>
    { registry with
      holder :=
        if registry.holder lock = some task then Function.update registry.holder lock none
        else registry.holder
      claims := Function.update registry.claims task none }
  | none => registry

/-- The name is forgotten; the lock stays with those who have asked for it. -/
def drop [DecidableEq κ] : Registry τ κ :=
  { registry with locks := Function.update registry.locks name none }

/-- The name whose lock the task holds. -/
def within [DecidableEq τ] : Option κ :=
  match registry.claims task with
  | some (name, lock) => if registry.holder lock = some task then some name else none
  | none => none

/-- A name without a lock is claimed by nobody. -/
def Unclaimed : Prop :=
  registry.locks name = none → ∀ task lock, registry.claims task ≠ some (name, lock)

/-- The claims of a name are on one lock, which is that of the name if it has one. -/
structure Shared : Prop where
  agree : ∀ task task' name lock lock', registry.claims task = some (name, lock) →
    registry.claims task' = some (name, lock') → lock = lock'
  current : ∀ task name lock lock', registry.claims task = some (name, lock) →
    registry.locks name = some lock' → lock' = lock

variable {registry task name} {task' : τ} {name' : κ}

lemma within_eq_some [DecidableEq τ] : registry.within task = some name ↔
    ∃ lock, registry.claims task = some (name, lock) ∧ registry.holder lock = some task := by
  unfold within
  cases hclaim : registry.claims task with
  | none => simp
  | some claim =>
    obtain ⟨claimed, lock⟩ := claim
    by_cases hholder : registry.holder lock = some task
    · simp only [hholder, if_true, Option.some.injEq, Prod.mk.injEq]
      constructor
      · rintro rfl
        exact ⟨lock, ⟨rfl, rfl⟩, hholder⟩
      · rintro ⟨_, ⟨rfl, -⟩, -⟩
        rfl
    · simp only [hholder, if_false, Option.some.injEq, Prod.mk.injEq]
      constructor
      · intro h
        cases h
      · rintro ⟨_, ⟨-, rfl⟩, hheld⟩
        exact absurd hheld hholder

lemma Shared.within_unique [DecidableEq τ] (h : registry.Shared)
    (htask : registry.within task = some name) (htask' : registry.within task' = some name) :
    task = task' := by
  obtain ⟨lock, hclaim, hholder⟩ := within_eq_some.mp htask
  obtain ⟨lock', hclaim', hholder'⟩ := within_eq_some.mp htask'
  obtain rfl := h.agree task task' name lock lock' hclaim hclaim'
  exact Option.some.inj (hholder.symm.trans hholder')

/-! ## What each step keeps -/

lemma shared_empty : (empty : Registry τ κ).Shared where
  agree := fun _ _ _ _ _ h _ => by cases h
  current := fun _ _ _ _ h _ => by cases h

lemma request_cases [DecidableEq τ] [DecidableEq κ] (registry : Registry τ κ) (task : τ)
    (name : κ) :
    registry.request task name = registry ∨
      registry.claims task = none ∧ ∃ lock,
        (registry.request task name).claims =
          Function.update registry.claims task (some (name, lock)) ∧
        (registry.request task name).locks = Function.update registry.locks name (some lock) ∧
        (registry.request task name).holder = registry.holder ∧
        (registry.locks name = some lock ∨ registry.locks name = none) := by
  unfold request
  cases hclaim : registry.claims task with
  | some claim => exact Or.inl rfl
  | none =>
    right
    cases hlock : registry.locks name with
    | some lock =>
      refine ⟨rfl, lock, rfl, ?_, rfl, Or.inl rfl⟩
      show registry.locks = Function.update registry.locks name (some lock)
      rw [← hlock, update_eq_self]
    | none => exact ⟨rfl, registry.made, rfl, rfl, rfl, Or.inr rfl⟩

/-- **A request** shares the lock, unless the name lost its lock to others who still claim it. -/
lemma Shared.request [DecidableEq τ] [DecidableEq κ] (h : registry.Shared)
    (hunclaimed : registry.Unclaimed name) : (registry.request task name).Shared := by
  rcases registry.request_cases task name with
    hsame | ⟨-, lock, hclaims, hlocks, -, hlock⟩
  · rw [hsame]
    exact h
  · -- an older claim of the name is on the lock that is given out
    have hold : ∀ other lock', registry.claims other = some (name, lock') → lock' = lock := by
      intro other lock' hclaim
      rcases hlock with hlock | hlock
      · exact (h.current other name lock' lock hclaim hlock).symm
      · exact absurd hclaim (hunclaimed hlock other lock')
    have hclaimed : ∀ other claimed lock', (registry.request task name).claims other =
        some (claimed, lock') → claimed = name ∧ lock' = lock ∨
          registry.claims other = some (claimed, lock') := by
      intro other claimed lock' hclaim
      rw [hclaims] at hclaim
      by_cases hother : other = task
      · subst hother
        rw [update_self] at hclaim
        cases hclaim
        exact Or.inl ⟨rfl, rfl⟩
      · rw [update_of_ne hother] at hclaim
        exact Or.inr hclaim
    constructor
    · intro other other' claimed lock₁ lock₂ hclaim hclaim'
      rcases hclaimed other claimed lock₁ hclaim with ⟨hname, hlock₁⟩ | hbefore
      · rcases hclaimed other' claimed lock₂ hclaim' with ⟨-, hlock₂⟩ | hbefore'
        · exact hlock₁.trans hlock₂.symm
        · rw [hname] at hbefore'
          exact hlock₁.trans (hold other' lock₂ hbefore').symm
      · rcases hclaimed other' claimed lock₂ hclaim' with ⟨hname, hlock₂⟩ | hbefore'
        · rw [hname] at hbefore
          exact (hold other lock₁ hbefore).trans hlock₂.symm
        · exact h.agree other other' claimed lock₁ lock₂ hbefore hbefore'
    · intro other claimed lock₁ lock₂ hclaim hcurrent
      rw [hlocks] at hcurrent
      by_cases hname : claimed = name
      · subst hname
        rw [update_self] at hcurrent
        cases hcurrent
        rcases hclaimed other claimed lock₁ hclaim with ⟨-, hlock₁⟩ | hbefore
        · exact hlock₁.symm
        · exact (hold other lock₁ hbefore).symm
      · rw [update_of_ne hname] at hcurrent
        rcases hclaimed other claimed lock₁ hclaim with ⟨hsame, -⟩ | hbefore
        · exact absurd hsame hname
        · exact h.current other claimed lock₁ lock₂ hbefore hcurrent

lemma enter_cases (registry : Registry τ κ) (task : τ) :
    registry.enter task = registry ∨ ∃ lock, registry.holder lock = none ∧
      registry.enter task =
        { registry with holder := Function.update registry.holder lock (some task) } := by
  unfold enter
  cases registry.claims task with
  | none => exact Or.inl rfl
  | some claim =>
    obtain ⟨_, lock⟩ := claim
    dsimp only
    cases hholder : registry.holder lock with
    | none => exact Or.inr ⟨lock, hholder, rfl⟩
    | some _ => exact Or.inl rfl

lemma Shared.enter (h : registry.Shared) : (registry.enter task).Shared := by
  rcases registry.enter_cases task with hsame | ⟨lock, -, hentered⟩
  · rw [hsame]
    exact h
  · rw [hentered]
    exact ⟨h.agree, h.current⟩

lemma claims_leave [DecidableEq τ] (hother : task' ≠ task) :
    (registry.leave task).claims task' = registry.claims task' := by
  unfold leave
  cases registry.claims task with
  | none => rfl
  | some claim => exact update_of_ne hother _ _

lemma claims_leave_self [DecidableEq τ] : (registry.leave task).claims task = none := by
  unfold leave
  cases hclaim : registry.claims task with
  | none => exact hclaim
  | some claim => exact update_self _ _ _

lemma locks_leave [DecidableEq τ] : (registry.leave task).locks = registry.locks := by
  unfold leave
  cases registry.claims task <;> rfl

lemma Shared.leave [DecidableEq τ] (h : registry.Shared) : (registry.leave task).Shared := by
  have hclaimed : ∀ other claim, (registry.leave task).claims other = some claim →
      registry.claims other = some claim := by
    intro other claim hclaim
    by_cases hother : other = task
    · subst hother
      rw [claims_leave_self] at hclaim
      cases hclaim
    · rwa [claims_leave hother] at hclaim
  constructor
  · intro other other' claimed lock lock' hclaim hclaim'
    exact h.agree other other' claimed lock lock' (hclaimed _ _ hclaim) (hclaimed _ _ hclaim')
  · intro other claimed lock lock' hclaim hcurrent
    rw [locks_leave] at hcurrent
    exact h.current other claimed lock lock' (hclaimed _ _ hclaim) hcurrent

lemma Shared.drop [DecidableEq κ] (h : registry.Shared) : (registry.drop name).Shared where
  agree := h.agree
  current := by
    intro other claimed lock lock' hclaim hcurrent
    by_cases hname : claimed = name
    · subst hname
      rw [show (registry.drop claimed).locks claimed = none from update_self _ _ _]
        at hcurrent
      cases hcurrent
    · exact h.current other claimed lock lock' hclaim
        ((update_of_ne hname _ _).symm.trans hcurrent)

/-! ## Who stays within -/

lemma within_request [DecidableEq τ] [DecidableEq κ]
    (hwithin : registry.within task' = some name') :
    (registry.request task name).within task' = some name' := by
  rcases registry.request_cases task name with
    hsame | ⟨hnone, lock, hclaims, -, hholder, -⟩
  · rw [hsame]
    exact hwithin
  · obtain ⟨lock', hclaim, hheld⟩ := within_eq_some.mp hwithin
    have hother : task' ≠ task := by
      rintro rfl
      rw [hnone] at hclaim
      cases hclaim
    refine within_eq_some.mpr ⟨lock', ?_, ?_⟩
    · rw [hclaims, update_of_ne hother]
      exact hclaim
    · rw [hholder]
      exact hheld

lemma within_enter [DecidableEq τ] (hwithin : registry.within task' = some name') :
    (registry.enter task).within task' = some name' := by
  rcases registry.enter_cases task with hsame | ⟨lock, hfree, hentered⟩
  · rw [hsame]
    exact hwithin
  · obtain ⟨lock', hclaim, hheld⟩ := within_eq_some.mp hwithin
    have hother : lock' ≠ lock := by
      rintro rfl
      rw [hfree] at hheld
      cases hheld
    rw [hentered]
    exact within_eq_some.mpr ⟨lock', hclaim, (update_of_ne hother _ _).trans hheld⟩

lemma within_leave [DecidableEq τ] (hother : task' ≠ task)
    (hwithin : registry.within task' = some name') :
    (registry.leave task).within task' = some name' := by
  obtain ⟨lock, hclaim, hheld⟩ := within_eq_some.mp hwithin
  refine within_eq_some.mpr ⟨lock, (claims_leave hother).trans hclaim, ?_⟩
  unfold leave
  cases registry.claims task with
  | none => exact hheld
  | some claim =>
    obtain ⟨_, left⟩ := claim
    dsimp only
    split
    case isTrue hleft =>
      have hlock : lock ≠ left := by
        rintro rfl
        exact hother (Option.some.inj (hheld.symm.trans hleft))
      exact (update_of_ne hlock _ _).trans hheld
    case isFalse hleft => exact hheld

end Registry

end Dripline.Found.Locks
