import Mathlib.Data.List.Nodup

/-!
# Guarded updates of a table

A table is a list of rows; an update changes the rows that meet its guard, and a row's key never
changes.
-/

namespace Dripline.Found.Updates

open List

variable {α κ : Type*}

/-- An update of the rows that meet a guard. -/
structure Update (α : Type*) where
  guard : α → Bool
  change : α → α

namespace Update

variable (update : Update α) (rows : List α)

/-- The table after an update. -/
def run : List α := rows.map fun row => if update.guard row then update.change row else row

/-- Whether an update changes a row. -/
def affects : Bool := rows.any update.guard

/-- The change of a guarded row is in a relation. -/
def Respects (R : α → α → Prop) : Prop := ∀ row, update.guard row = true → R row (update.change row)

variable {update rows}

lemma mem_run {row : α} : row ∈ update.run rows ↔
    ∃ before ∈ rows, (if update.guard before then update.change before else before) = row :=
  mem_map

lemma change_mem_run {row : α} (hrow : row ∈ rows) (hguard : update.guard row = true) :
    update.change row ∈ update.run rows :=
  mem_run.mpr ⟨row, hrow, if_pos hguard⟩

end Update

/-- Every row is carried on, and the other rows are new. -/
structure Follows (key : α → κ) (R : α → α → Prop) (New : α → Prop) (rows after : List α) : Prop where
  forward : ∀ row ∈ rows, ∃ row' ∈ after, R row row'
  backward : ∀ row' ∈ after, (∃ row ∈ rows, R row row') ∨ New row'
  keys : (rows.map key).Nodup → (after.map key).Nodup

variable {key : α → κ} {R : α → α → Prop} {New : α → Prop} {rows : List α}

lemma Follows.refl (hrefl : ∀ row, R row row) : Follows key R New rows rows :=
  ⟨fun row hrow => ⟨row, hrow, hrefl row⟩, fun row hrow => .inl ⟨row, hrow, hrefl row⟩, id⟩

lemma follows_run {update : Update α} (hrefl : ∀ row, R row row) (hkey : ∀ {row row'}, R row row' →
    key row' = key row) (h : update.Respects R) : Follows key R New rows (update.run rows) := by
  have hstep : ∀ row, R row (if update.guard row then update.change row else row) := by
    intro row
    by_cases hguard : update.guard row = true
    · rw [if_pos hguard]
      exact h row hguard
    · rw [if_neg hguard]
      exact hrefl row
  refine ⟨fun row hrow => ⟨_, mem_map_of_mem hrow, hstep row⟩, fun row' hrow' => ?_,
    fun hnodup => ?_⟩
  · obtain ⟨row, hrow, rfl⟩ := Update.mem_run.mp hrow'
    exact .inl ⟨row, hrow, hstep row⟩
  · have hkeys : (update.run rows).map key = rows.map key := by
      rw [Update.run, map_map]
      exact map_congr_left fun row _ => hkey (hstep row)
    rwa [hkeys]

lemma follows_append (hrefl : ∀ row, R row row) {row : α} (hnew : New row)
    (hkey : key row ∉ rows.map key) : Follows key R New rows (rows ++ [row]) := by
  refine ⟨fun before hbefore => ⟨before, mem_append_left _ hbefore, hrefl before⟩,
    fun after hafter => ?_, fun hnodup => ?_⟩
  · obtain hold | hlast := mem_append.mp hafter
    · exact .inl ⟨after, hold, hrefl after⟩
    · obtain rfl := mem_singleton.mp hlast
      exact .inr hnew
  · rw [map_append, map_singleton]
    refine nodup_append.mpr ⟨hnodup, by simp, fun k hk other hother heq => hkey ?_⟩
    exact mem_singleton.mp hother ▸ heq ▸ hk

lemma eq_of_key {row row' : α} (hnodup : (rows.map key).Nodup) (hrow : row ∈ rows)
    (hrow' : row' ∈ rows) (h : key row = key row') : row = row' :=
  inj_on_of_nodup_map hnodup hrow hrow' h

end Dripline.Found.Updates
