import Mathlib.Data.List.Basic

/-!
# The first few that pass a test
-/

namespace Dripline.Found.FirstFew

open List

variable {α : Type*} {p q : α → Bool} {n : ℕ} {l : List α}

lemma take_filter_and (h : ∀ a ∈ (l.filter p).take n, q a = true) :
    (l.filter fun a => p a && q a).take n = (l.filter p).take n := by
  induction l generalizing n with
  | nil => rfl
  | cons a l ih =>
    cases hp : p a with
    | false =>
      simp only [filter_cons, hp, Bool.false_and, Bool.false_eq_true, if_false] at h ⊢
      exact ih h
    | true =>
      cases n with
      | zero => simp
      | succ n =>
        simp only [filter_cons, hp, if_true, take_succ_cons, mem_cons,
          forall_eq_or_imp] at h
        simp only [filter_cons, hp, h.1, Bool.and_self, if_true, take_succ_cons, ih h.2]

/-- **Two tests leave the same** exactly where the first few that pass the one pass both. -/
lemma take_filter_eq_iff {r : α → Bool} :
    ((l.filter fun a => p a && q a).take n).filter r = (l.filter p).take n ↔
      ∀ a ∈ (l.filter p).take n, q a = true ∧ r a = true := by
  constructor
  · intro h a ha
    rw [← h, mem_filter] at ha
    have hpass := of_mem_filter (mem_of_mem_take ha.1)
    exact ⟨(Bool.and_eq_true_iff.mp hpass).2, ha.2⟩
  · intro h
    rw [take_filter_and fun a ha => (h a ha).1]
    exact filter_eq_self.mpr fun a ha => (h a ha).2

/-- **What holds of the first few** holds of every element that passes with fewer than that many
before it. -/
lemma forall_mem_take_filter_iff {P : α → Prop} :
    (∀ a ∈ (l.filter p).take n, P a) ↔
      ∀ before a after, l = before ++ a :: after → p a = true → P a ∨ n ≤ (before.filter p).length := by
  constructor
  · rintro h before a after rfl hp
    rcases Nat.lt_or_ge (before.filter p).length n with hfew | hmany
    · refine .inl (h a ?_)
      rw [filter_append, filter_cons, if_pos hp, take_append]
      obtain ⟨left, hleft⟩ := Nat.exists_eq_add_of_lt hfew
      have hroom : n - (before.filter p).length = left + 1 := by omega
      simp [hroom]
    · exact .inr hmany
  · intro h
    induction l generalizing n with
    | nil => simp
    | cons b l ih =>
      intro a ha
      cases hp : p b with
      | false =>
        rw [filter_cons, if_neg (by simp [hp])] at ha
        refine ih (fun before a after hl hpa => ?_) a ha
        have hlonger := h (b :: before) a after (by rw [hl]; rfl) hpa
        rwa [filter_cons, if_neg (by simp [hp])] at hlonger
      | true =>
        cases n with
        | zero => simp at ha
        | succ n =>
          rw [filter_cons, if_pos hp, take_succ_cons, mem_cons] at ha
          rcases ha with rfl | ha
          · exact (h [] a l rfl hp).resolve_right (by simp)
          · refine ih (fun before a after hl hpa => ?_) a ha
            have hlonger := h (b :: before) a after (by rw [hl]; rfl) hpa
            rw [filter_cons, if_pos hp, length_cons] at hlonger
            exact hlonger.imp_right Nat.le_of_succ_le_succ

end Dripline.Found.FirstFew
