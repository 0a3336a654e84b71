import Mathlib.Data.List.Nodup

/-!
# A table with a unique key

A row goes in only where no row has its key yet; a row that is in stays as it is.
-/

namespace Dripline.Found.Unique

open List

variable {α κ : Type*} [DecidableEq κ] (key : α → κ)

/-- A row goes in unless its key is taken. -/
def insert (row : α) (rows : List α) : List α :=
  if key row ∈ rows.map key then rows else rows ++ [row]

/-- A batch goes in row by row. -/
def insertAll (batch rows : List α) : List α :=
  batch.foldl (fun rows row => insert key row rows) rows

variable {key} {rows batch : List α}

@[simp] lemma insertAll_nil : insertAll key [] rows = rows := rfl

lemma insertAll_cons (row : α) :
    insertAll key (row :: batch) rows = insertAll key batch (insert key row rows) := rfl

lemma insert_of_mem {row : α} (h : key row ∈ rows.map key) : insert key row rows = rows := if_pos h

lemma insert_of_not_mem {row : α} (h : key row ∉ rows.map key) :
    insert key row rows = rows ++ [row] := if_neg h

lemma nodup_insert (hnodup : (rows.map key).Nodup) (row : α) :
    ((insert key row rows).map key).Nodup := by
  by_cases h : key row ∈ rows.map key
  · rwa [insert_of_mem h]
  · rw [insert_of_not_mem h, map_append, nodup_append]
    refine ⟨hnodup, by simp, ?_⟩
    intro k hk k' hk' heq
    rw [map_singleton, mem_singleton] at hk'
    exact h (hk' ▸ heq ▸ hk)

lemma nodup_insertAll (hnodup : (rows.map key).Nodup) (batch : List α) :
    ((insertAll key batch rows).map key).Nodup := by
  induction batch generalizing rows with
  | nil => exact hnodup
  | cons row batch ih => exact ih (nodup_insert hnodup row)

lemma mem_keys_insert {row : α} {k : κ} :
    k ∈ (insert key row rows).map key ↔ k ∈ rows.map key ∨ k = key row := by
  by_cases h : key row ∈ rows.map key
  · rw [insert_of_mem h]
    refine ⟨Or.inl, ?_⟩
    rintro (hk | rfl)
    · exact hk
    · exact h
  · rw [insert_of_not_mem h, map_append, mem_append, map_singleton, mem_singleton]

/-- **The keys after a batch** are those of before, and those of the batch. -/
lemma mem_keys_insertAll {k : κ} :
    k ∈ (insertAll key batch rows).map key ↔ k ∈ rows.map key ∨ k ∈ batch.map key := by
  induction batch generalizing rows with
  | nil => simp
  | cons row batch ih =>
    rw [insertAll_cons, ih, mem_keys_insert, map_cons, mem_cons, or_assoc]

/-- **What a batch adds**: rows of its own, under keys that the table did not have. -/
lemma insertAll_spec (key : α → κ) (batch rows : List α) :
    ∃ added, insertAll key batch rows = rows ++ added ∧
    ∀ row ∈ added, row ∈ batch ∧ key row ∉ rows.map key := by
  induction batch generalizing rows with
  | nil => exact ⟨[], by simp, by simp⟩
  | cons row batch ih =>
    obtain ⟨added, heq, hadded⟩ := ih (insert key row rows)
    by_cases h : key row ∈ rows.map key
    · rw [insert_of_mem h] at heq hadded
      refine ⟨added, by rw [insertAll_cons, insert_of_mem h, heq], ?_⟩
      intro other hother
      exact ⟨mem_cons_of_mem row (hadded other hother).1, (hadded other hother).2⟩
    · rw [insert_of_not_mem h] at heq hadded
      refine ⟨row :: added, by rw [insertAll_cons, insert_of_not_mem h, heq]; simp, ?_⟩
      intro other hother
      rcases mem_cons.mp hother with rfl | hother
      · exact ⟨mem_cons_self, h⟩
      · obtain ⟨hbatch, hfresh⟩ := hadded other hother
        refine ⟨mem_cons_of_mem row hbatch, fun hk => hfresh ?_⟩
        rw [map_append]
        exact mem_append_left _ hk

end Dripline.Found.Unique
