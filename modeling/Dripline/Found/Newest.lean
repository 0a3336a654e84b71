import Dripline.Found.StableSort

/-!
# Reading backwards, the newest first
-/

namespace Dripline.Found.Newest

open List

open StableSort (sortByKey)

variable {α κ : Type*} [LinearOrder κ] {key : α → κ}

/-- The elements with the greatest key first. -/
def newestFirst (key : α → κ) (l : List α) : List α := (sortByKey key l).reverse

variable {l : List α} {a : α}

@[simp] lemma mem_newestFirst : a ∈ newestFirst key l ↔ a ∈ l := by
  simp [newestFirst]

lemma newestFirst_perm (l : List α) : (newestFirst key l).Perm l :=
  (reverse_perm _).trans (StableSort.sortByKey_perm key l)

lemma strict_newestFirst (h : (l.map key).Nodup) :
    (newestFirst key l).Pairwise fun a b => key b < key a :=
  pairwise_reverse.mpr (StableSort.strict_sortByKey key h)

lemma filter_newestFirst (p : α → Bool) (l : List α) :
    (newestFirst key l).filter p = newestFirst key (l.filter p) := by
  rw [newestFirst, newestFirst, filter_reverse, StableSort.filter_sortByKey]

/-- **A page above a bound**: the elements above it come first. -/
lemma filter_take (h : l.Pairwise fun a b => key b < key a) (bound : κ) (size : ℕ) :
    (l.take size).filter (bound ≤ key ·) = (l.filter (bound ≤ key ·)).take size := by
  induction l generalizing size with
  | nil => simp
  | cons a l ih =>
    obtain ⟨ha, hl⟩ := pairwise_cons.mp h
    cases size with
    | zero => simp
    | succ size =>
      by_cases hbound : bound ≤ key a
      · rw [take_succ_cons, filter_cons_of_pos (by simpa using hbound),
          filter_cons_of_pos (by simpa using hbound), take_succ_cons, ih hl]
      · -- everything behind is below the bound too
        have hnone : ∀ b ∈ l, ¬bound ≤ key b := fun b hb hle => hbound (hle.trans (ha b hb).le)
        rw [take_succ_cons, filter_cons_of_neg (by simpa using hbound),
          filter_cons_of_neg (by simpa using hbound), filter_eq_nil_iff.mpr,
          filter_eq_nil_iff.mpr, take_nil]
        · intro b hb
          simpa using hnone b hb
        · intro b hb
          simpa using hnone b (mem_of_mem_take hb)

/-- **What is left** behind a page is below the least key on it. -/
lemma drop_eq_filter (h : l.Pairwise fun a b => key b < key a) {size : ℕ} {oldest : κ}
    (hmem : ∃ a ∈ l.take size, key a = oldest) (hle : ∀ a ∈ l.take size, oldest ≤ key a) :
    l.drop size = l.filter (key · < oldest) := by
  obtain ⟨a, ha, rfl⟩ := hmem
  have hbelow : ∀ b ∈ l.drop size, key b < key a := by
    rw [← take_append_drop size l] at h
    exact fun b hb => (pairwise_append.mp h).2.2 a ha b hb
  conv_rhs => rw [← take_append_drop size l, filter_append]
  rw [filter_eq_nil_iff.mpr, filter_eq_self.mpr, nil_append]
  · intro b hb
    simpa using hbelow b hb
  · intro b hb
    simpa using hle b hb

/-- **Among the first ones**: no more than so many are at or above it. -/
lemma mem_take_iff (h : l.Pairwise fun a b => key b < key a) (ha : a ∈ l) (size : ℕ) :
    a ∈ l.take size ↔ (l.filter (key a ≤ key ·)).length ≤ size := by
  induction l generalizing size with
  | nil => cases ha
  | cons b l ih =>
    obtain ⟨hb, hl⟩ := pairwise_cons.mp h
    rcases mem_cons.mp ha with rfl | ha
    · -- the first one: it is alone at or above itself
      have hnone : l.filter (key a ≤ key ·) = [] :=
        filter_eq_nil_iff.mpr fun c hc => by simpa using hb c hc
      rw [filter_cons_of_pos (by simp), hnone, length_singleton]
      cases size with
      | zero => simp
      | succ size => simp
    · have hab : key a ≤ key b := (hb a ha).le
      rw [filter_cons_of_pos (by simpa using hab), length_cons]
      cases size with
      | zero => simp
      | succ size =>
        rw [take_succ_cons, mem_cons, ih hl ha size, Nat.add_le_add_iff_right]
        refine ⟨fun hor => hor.resolve_left ?_, Or.inr⟩
        intro heq
        exact (hb a ha).ne (congrArg key heq)

end Dripline.Found.Newest
