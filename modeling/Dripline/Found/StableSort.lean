import Mathlib.Data.List.Sort
import Mathlib.Data.List.Perm.Basic

/-!
# Stable sorting by a comparator

Nothing here names a program; the comparator only has to be transitive and oriented
(`Std.TransCmp`).
-/

namespace Dripline.Found.StableSort

open List

variable {α : Type*}

/-- The stable sort of a list by a comparator: an element is inserted before the ones it ties
with, so ties keep the order of the input. -/
def sortBy (cmp : α → α → Ordering) (l : List α) : List α :=
  l.insertionSort fun a b => (cmp a b).isLE = true

section basic

variable (cmp : α → α → Ordering)

lemma sortBy_perm (l : List α) : (sortBy cmp l).Perm l :=
  perm_insertionSort _ l

variable {l : List α}

@[simp] lemma mem_sortBy {a : α} : a ∈ sortBy cmp l ↔ a ∈ l :=
  (sortBy_perm cmp l).mem_iff

@[simp] lemma sortBy_nil : sortBy cmp ([] : List α) = [] := rfl

lemma sortBy_cons (a : α) (l : List α) :
    sortBy cmp (a :: l) = (sortBy cmp l).orderedInsert (fun a b => (cmp a b).isLE = true) a := rfl

lemma sortBy_append_congr {l₂ l₂' : List α} (h : sortBy cmp l₂ = sortBy cmp l₂')
    (l₁ : List α) : sortBy cmp (l₁ ++ l₂) = sortBy cmp (l₁ ++ l₂') := by
  induction l₁ with
  | nil => exact h
  | cons a l₁ ih => rw [cons_append, cons_append, sortBy_cons, sortBy_cons, ih]

lemma sortBy_eq_self (h : l.Pairwise fun a b => (cmp a b).isLE = true) : sortBy cmp l = l :=
  List.Pairwise.insertionSort_eq h

end basic

section ordered

variable (cmp : α → α → Ordering) [Std.TransCmp cmp]

lemma isLE_total (a b : α) : (cmp a b).isLE = true ∨ (cmp b a).isLE = true := by
  have hswap : cmp b a = (cmp a b).swap := Std.OrientedCmp.eq_swap
  rw [hswap]
  cases cmp a b <;> simp

/-- The order of the sort, as Mathlib's sorting lemmas ask for it. -/
instance total_isLE : Std.Total fun a b => (cmp a b).isLE = true := ⟨isLE_total cmp⟩

/-- The order of the sort is transitive. -/
instance isTrans_isLE : IsTrans α fun a b => (cmp a b).isLE = true :=
  ⟨fun _ _ _ => Std.TransCmp.isLE_trans⟩

lemma pairwise_sortBy (l : List α) : (sortBy cmp l).Pairwise fun a b => (cmp a b).isLE = true :=
  pairwise_insertionSort _ l

lemma filter_orderedInsert (p : α → Bool) (a : α) {l : List α}
    (hl : l.Pairwise fun a b => (cmp a b).isLE = true) :
    (l.orderedInsert (fun a b => (cmp a b).isLE = true) a).filter p =
      if p a then (l.filter p).orderedInsert (fun a b => (cmp a b).isLE = true) a
      else l.filter p := by
  induction l with
  | nil => cases h : p a <;> simp [h]
  | cons b l ih =>
    obtain ⟨hb, hl'⟩ := pairwise_cons.mp hl
    by_cases hab : (cmp a b).isLE = true
    · -- everything behind `b` is above `a` too, so `a` stays in front after the filter
      have hfront : ∀ c ∈ (b :: l).filter p, (cmp a c).isLE = true := by
        intro c hc
        rcases mem_cons.mp (mem_of_mem_filter hc) with rfl | hc'
        · exact hab
        · exact Std.TransCmp.isLE_trans hab (hb c hc')
      rw [orderedInsert_cons_of_le _ l hab]
      cases hpa : p a
      · simp [hpa]
      · rw [filter_cons_of_pos hpa, if_pos rfl]
        cases hf : (b :: l).filter p with
        | nil => rfl
        | cons c l' =>
          have hc : c ∈ (b :: l).filter p := by
            rw [hf]
            exact mem_cons_self
          rw [orderedInsert_cons_of_le _ l' (hfront c hc)]
    · rw [orderedInsert_of_not_le _ l hab]
      cases hpb : p b
      · rw [filter_cons_of_neg (by simp [hpb]), filter_cons_of_neg (by simp [hpb]),
          ih hl']
      · rw [filter_cons_of_pos hpb, filter_cons_of_pos hpb, ih hl']
        cases hpa : p a
        · simp
        · rw [if_pos rfl, if_pos rfl, orderedInsert_of_not_le _ (l.filter p) hab]

/-- **Sorting commutes with filtering.** -/
lemma filter_sortBy (p : α → Bool) (l : List α) :
    (sortBy cmp l).filter p = sortBy cmp (l.filter p) := by
  induction l with
  | nil => rfl
  | cons a l ih =>
    rw [sortBy_cons, filter_orderedInsert cmp p a (pairwise_sortBy cmp l), ih]
    cases hpa : p a
    · rw [filter_cons_of_neg (by simp [hpa])]; simp
    · rw [filter_cons_of_pos hpa, sortBy_cons, if_pos rfl]

variable {l₁ l₂ : List α}

/-- **A comparator without ties sorts permutations alike.** -/
lemma sortBy_eq_of_perm (hp : l₁.Perm l₂) (hties : ∀ a ∈ l₁, ∀ b ∈ l₁, cmp a b = .eq → a = b) :
    sortBy cmp l₁ = sortBy cmp l₂ := by
  refine List.Perm.eq_of_pairwise ?_ (pairwise_sortBy cmp l₁) (pairwise_sortBy cmp l₂)
    ((sortBy_perm cmp l₁).trans (hp.trans (sortBy_perm cmp l₂).symm))
  intro a b ha hb hab hba
  have ha' : a ∈ l₁ := (mem_sortBy cmp).mp ha
  have hb' : b ∈ l₁ := hp.mem_iff.mpr ((mem_sortBy cmp).mp hb)
  apply hties a ha' b hb'
  have hswap : cmp b a = (cmp a b).swap := Std.OrientedCmp.eq_swap
  rw [hswap] at hba
  cases h : cmp a b <;> simp_all

lemma sortBy_append_of_perm (l : List α) (hp : l₁.Perm l₂)
    (hties : ∀ a ∈ l₁, ∀ b ∈ l₁, cmp a b = .eq → a = b) :
    sortBy cmp (l ++ l₁) = sortBy cmp (l ++ l₂) :=
  sortBy_append_congr cmp (sortBy_eq_of_perm cmp hp hties) l

end ordered

section keyed

variable {κ : Type*} [LinearOrder κ] (key : α → κ)

/-- The stable sort of a list by a key. -/
def sortByKey (l : List α) : List α := sortBy (compareOn key) l

lemma sortByKey_perm (l : List α) : (sortByKey key l).Perm l := sortBy_perm _ l

variable {l : List α} {a : α}

@[simp] lemma mem_sortByKey : a ∈ sortByKey key l ↔ a ∈ l := mem_sortBy _

@[simp] lemma sortByKey_nil : sortByKey key ([] : List α) = [] := rfl

lemma pairwise_sortByKey (l : List α) : (sortByKey key l).Pairwise (key · ≤ key ·) := by
  refine (pairwise_sortBy (compareOn key) l).imp ?_
  intro a b h
  exact Std.LawfulBCmp.isLE_iff_le.mp h

lemma strict_sortByKey (hnodup : (l.map key).Nodup) :
    (sortByKey key l).Pairwise (key · < key ·) := by
  have hkeys : ((sortByKey key l).map key).Nodup :=
    (((sortByKey_perm key l).map key).nodup_iff).mpr hnodup
  have hne := pairwise_map.mp hkeys
  exact (pairwise_sortByKey key l).imp₂ (fun _ _ hle hne => lt_of_le_of_ne hle hne) hne

lemma sortByKey_eq_self (h : l.Pairwise (key · ≤ key ·)) : sortByKey key l = l := by
  refine sortBy_eq_self _ (h.imp ?_)
  intro a b hle
  change (compare (key a) (key b)).isLE = true
  exact Std.LawfulBCmp.isLE_iff_le.mpr hle

lemma filter_sortByKey (p : α → Bool) (l : List α) :
    (sortByKey key l).filter p = sortByKey key (l.filter p) := filter_sortBy _ p l

lemma pair_sublist_sortByKey {b : α} (h : [a, b].Sublist l) (hle : key a ≤ key b) :
    [a, b].Sublist (sortByKey key l) := by
  have hcmp : (compare (key a) (key b)).isLE = true := Std.LawfulBCmp.isLE_iff_le.mpr hle
  exact pair_sublist_insertionSort hcmp h

end keyed

end Dripline.Found.StableSort
