import Mathlib.Data.List.Sort

/-!
# Reading rows a page at a time

Rows are read in the order of a key, `size` at a time.
-/

namespace Dripline.Found.Pages

open List

variable {α κ : Type*} [LinearOrder κ] (key : α → κ)

/-- The rows in the order of their keys. -/
def sorted (rows : List α) : List α := rows.insertionSort (key · ≤ key ·)

variable {rows : List α} {row : α}

@[simp] lemma mem_sorted : row ∈ sorted key rows ↔ row ∈ rows :=
  (perm_insertionSort _ rows).mem_iff

@[simp] lemma length_sorted (rows : List α) : (sorted key rows).length = rows.length :=
  (perm_insertionSort _ rows).length_eq

lemma pairwise_sorted (rows : List α) : (sorted key rows).Pairwise (key · ≤ key ·) := by
  have : Std.Total fun a b : α => key a ≤ key b := ⟨fun a b => le_total (key a) (key b)⟩
  have : IsTrans α fun a b => key a ≤ key b := ⟨fun a b c => le_trans⟩
  exact pairwise_insertionSort _ rows

lemma mem_take_or_lt (hsorted : rows.Pairwise (key · ≤ key ·))
    (hdistinct : ∀ a ∈ rows, ∀ b ∈ rows, key a = key b → a = b) (size : ℕ) (hrow : row ∈ rows) :
    row ∈ rows.take size ∨
      size < rows.length ∧ ∀ first ∈ rows.take size, key first < key row := by
  rw [← take_append_drop size rows] at hrow
  rcases mem_append.mp hrow with hfirst | hrest
  · exact Or.inl hfirst
  by_cases hmem : row ∈ rows.take size
  · exact Or.inl hmem
  refine Or.inr ⟨?_, ?_⟩
  · by_contra hshort
    rw [drop_eq_nil_of_le (Nat.le_of_not_lt hshort)] at hrest
    cases hrest
  · intro first hfirst
    have hle : key first ≤ key row := by
      rw [← take_append_drop size rows] at hsorted
      exact (pairwise_append.mp hsorted).2.2 first hfirst row hrest
    refine lt_of_le_of_ne hle fun heq => hmem ?_
    rwa [← hdistinct first (mem_of_mem_take hfirst) row (mem_of_mem_drop hrest) heq]

lemma le_of_getLast? (hsorted : rows.Pairwise (key · ≤ key ·)) {last : α}
    (hlast : rows.getLast? = some last) (hrow : row ∈ rows) : key row ≤ key last := by
  obtain ⟨front, rfl⟩ := List.getLast?_eq_some_iff.mp hlast
  rcases mem_append.mp hrow with hfront | hrest
  · exact (pairwise_append.mp hsorted).2.2 row hfront last mem_cons_self
  · rw [mem_singleton.mp hrest]

omit [LinearOrder κ] in
lemma mem_take_or_drop {offset : ℕ} (size : ℕ) (h : row ∈ rows.drop offset) :
    row ∈ (rows.drop offset).take size ∨
      ((rows.drop offset).take size).length = size ∧ row ∈ rows.drop (offset + size) := by
  rw [← take_append_drop size (rows.drop offset)] at h
  rcases mem_append.mp h with hfirst | hrest
  · exact Or.inl hfirst
  · refine Or.inr ⟨?_, by rwa [drop_drop] at hrest⟩
    rw [length_take, min_eq_left]
    by_contra hshort
    rw [drop_eq_nil_of_le (by omega)] at hrest
    cases hrest

lemma length_filter_add_length_le (rows : List α) (before after : α → Bool) (size : ℕ)
    (hsub : ∀ row ∈ rows, after row = true → before row = true)
    (hdone : ∀ row ∈ (sorted key (rows.filter before)).take size, after row = false) :
    (rows.filter after).length + ((sorted key (rows.filter before)).take size).length ≤
      (rows.filter before).length := by
  have hafter : rows.filter after = (rows.filter before).filter after := by
    rw [filter_filter]
    refine filter_congr fun row hrow => ?_
    cases h : after row
    · rfl
    · rw [hsub row hrow h]
      rfl
  have hperm : ((sorted key (rows.filter before)).filter after).length =
      ((rows.filter before).filter after).length :=
    ((perm_insertionSort _ _).filter _).length_eq
  have htaken : ((sorted key (rows.filter before)).take size).filter after = [] :=
    filter_eq_nil_iff.mpr fun row hrow => by simp [hdone row hrow]
  calc (rows.filter after).length + ((sorted key (rows.filter before)).take size).length
      = ((sorted key (rows.filter before)).filter after).length +
          ((sorted key (rows.filter before)).take size).length := by rw [hafter, hperm]
    _ = (((sorted key (rows.filter before)).drop size).filter after).length +
          ((sorted key (rows.filter before)).take size).length := by
        conv_lhs => rw [← take_append_drop size (sorted key (rows.filter before))]
        rw [filter_append, htaken, nil_append, take_append_drop]
    _ ≤ ((sorted key (rows.filter before)).drop size).length +
          ((sorted key (rows.filter before)).take size).length :=
        Nat.add_le_add_right (length_filter_le _ _) _
    _ = (rows.filter before).length := by
        rw [Nat.add_comm, ← length_append, take_append_drop, length_sorted]

end Dripline.Found.Pages
