import Mathlib.Data.Option.Basic

/-!
# Updates that a reader must not lose

A table of rows with fields. Writers change fields; a reader reads rows and replaces some of them
later. A field that was changed is owed its value until it is changed again, or the reader has read
it.
-/

namespace Dripline.Found.Owed

variable {ι φ ρ ν : Type*}

/-- The value a field of a row is owed. -/
abbrev Debts (ι φ ν : Type*) := ι → φ → Option ν

namespace Debts

/-- Nothing is owed. -/
def nothing : Debts ι φ ν := fun _ _ => none

variable (value : ρ → φ → ν)

/-- Every field that is owed a value has it. -/
def Present (owed : Debts ι φ ν) (rows : ι → Option ρ) : Prop :=
  ∀ i field v, owed i field = some v → ∃ row, rows i = some row ∧ value row field = v

/-- The row that was read has the value in the field. -/
def Finds (reads : ι → Option ρ) (i : ι) (field : φ) (v : ν) : Prop :=
  ∃ row, reads i = some row ∧ value row field = v

variable {value} {owed : Debts ι φ ν} {reads before after : ι → Option ρ} {i : ι} {field : φ} {v : ν}

lemma present_nothing (rows : ι → Option ρ) : Present value nothing rows :=
  fun _ _ _ hv => absurd hv (Option.some_ne_none _).symm

/-- **A replacement takes nothing back** when what it changes is what was read. -/
lemma Present.replaced (h : Present value owed before)
    (hunread : ∀ i field v, owed i field = some v → ¬ Finds value reads i field v)
    (hreplaced : ∀ i row, before i = some row → ∃ fresh, after i = some fresh ∧
      ∀ field, value fresh field = value row field ∨ Finds value reads i field (value row field)) :
    Present value owed after := by
  intro i field v hv
  obtain ⟨row, hrow, rfl⟩ := h i field v hv
  obtain ⟨fresh, hfresh, hfields⟩ := hreplaced i row hrow
  exact ⟨fresh, hfresh, (hfields field).resolve_right (hunread i field _ hv)⟩

variable [DecidableEq ν] (value) (owed)

/-- What was read is owed no more. -/
def known (reads : ι → Option ρ) : Debts ι φ ν := fun i field =>
  (owed i field).filter fun v => decide ((reads i).map (value · field) ≠ some v)

/-- A field that is changed is owed what it was changed to; a row that is gone is owed nothing. -/
def written (before after : ι → Option ρ) : Debts ι φ ν := fun i field =>
  match after i with
  | none => none
  | some row =>
    if (before i).map (value · field) = some (value row field) then owed i field
    else some (value row field)

variable {value} {owed}

lemma known_eq_some : known value owed reads i field = some v ↔
    owed i field = some v ∧ ¬ Finds value reads i field v := by
  unfold known Finds
  rw [Option.filter_eq_some_iff, decide_eq_true_iff, ne_eq, Option.map_eq_some_iff]

lemma Present.known (h : Present value owed before) (reads : ι → Option ρ) :
    Present value (known value owed reads) before :=
  fun i field v hv => h i field v (known_eq_some.mp hv).1

/-- **A write takes nothing back** but what it changes. -/
lemma Present.written (h : Present value owed before) (after : ι → Option ρ) :
    Present value (written value owed before after) after := by
  intro i field v hv
  unfold Debts.written at hv
  cases hafter : after i with
  | none =>
    rw [hafter] at hv
    cases hv
  | some row =>
    rw [hafter] at hv
    dsimp only at hv
    split at hv
    case isTrue hsame =>
      -- the field was owed its value, and has it still
      obtain ⟨old, hold, hvalue⟩ := h i field v hv
      rw [hold] at hsame
      exact ⟨row, rfl, (Option.some.inj hsame).symm.trans hvalue⟩
    case isFalse hchanged => exact ⟨row, rfl, Option.some.inj hv⟩

end Debts

end Dripline.Found.Owed
