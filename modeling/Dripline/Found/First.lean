import Mathlib.Data.List.Basic

/-!
# The first element that passes a test
-/

namespace Dripline.Found.First

open List

variable {α : Type*} {l : List α} {a : α}

lemma eraseP_congr_of_find? {p q : α → Bool} (hp : l.find? p = some a) (hq : l.find? q = some a) :
    l.eraseP p = l.eraseP q := by
  have hpa : p a = true := List.find?_some hp
  have hqa : q a = true := List.find?_some hq
  induction l with
  | nil => cases hp
  | cons b l ih =>
    cases hpb : p b with
    | true =>
      -- the first test stops here, so both do
      rw [List.find?_cons_of_pos hpb] at hp
      obtain rfl := Option.some.inj hp
      rw [eraseP_cons_of_pos hpb, eraseP_cons_of_pos hqa]
    | false =>
      have hqb : q b = false := by
        cases hqb : q b with
        | false => rfl
        | true =>
          rw [List.find?_cons_of_pos hqb] at hq
          obtain rfl := Option.some.inj hq
          exact absurd hpa (by simp [hpb])
      rw [List.find?_cons_of_neg (by simp [hpb])] at hp
      rw [List.find?_cons_of_neg (by simp [hqb])] at hq
      rw [eraseP_cons_of_neg (by simp [hpb]), eraseP_cons_of_neg (by simp [hqb]),
        ih hp hq]

variable {b : α}

lemma test_of_eq_cons_eraseP {q : α → Bool} (hb : b ∈ l) (hqb : q b = true)
    (h : l = a :: l.eraseP q) : q a = true := by
  induction l generalizing a with
  | nil => cases hb
  | cons c l ih =>
    obtain ⟨rfl, htail⟩ := List.cons.inj h
    cases hqc : q c with
    | true => rfl
    | false =>
      have hbl : b ∈ l := by
        rcases mem_cons.mp hb with rfl | hbl
        · exact absurd hqb (by simp [hqc])
        · exact hbl
      rw [eraseP_cons_of_neg (by simp [hqc])] at htail
      exact absurd (ih hbl htail) (by simp [hqc])

/-- **Two tests take out the same element** exactly when they find the same. -/
lemma eraseP_eq_eraseP_iff {p q : α → Bool} (hp : l.find? p = some a) (hq : l.find? q = some b) :
    l.eraseP p = l.eraseP q ↔ a = b := by
  refine ⟨?_, fun hab => eraseP_congr_of_find? hp (hab ▸ hq)⟩
  intro h
  have hpa : p a = true := List.find?_some hp
  have hqb : q b = true := List.find?_some hq
  have ha := mem_of_find?_eq_some hp
  have hb := mem_of_find?_eq_some hq
  induction l with
  | nil => cases hp
  | cons c l ih =>
    cases hpc : p c with
    | true =>
      rw [List.find?_cons_of_pos hpc] at hp
      obtain rfl := Option.some.inj hp
      cases hqc : q c with
      | true =>
        rw [List.find?_cons_of_pos hqc] at hq
        exact Option.some.inj hq
      | false =>
        rw [eraseP_cons_of_pos hpc, eraseP_cons_of_neg (by simp [hqc])] at h
        rw [List.find?_cons_of_neg (by simp [hqc])] at hq
        exact absurd (test_of_eq_cons_eraseP (mem_of_find?_eq_some hq) hqb h)
          (by simp [hqc])
    | false =>
      rw [List.find?_cons_of_neg (by simp [hpc])] at hp
      cases hqc : q c with
      | true =>
        rw [List.find?_cons_of_pos hqc] at hq
        obtain rfl := Option.some.inj hq
        rw [eraseP_cons_of_pos hqc, eraseP_cons_of_neg (by simp [hpc])] at h
        exact absurd (test_of_eq_cons_eraseP (mem_of_find?_eq_some hp) hpa h.symm)
          (by simp [hpc])
      | false =>
        rw [List.find?_cons_of_neg (by simp [hqc])] at hq
        rw [eraseP_cons_of_neg (by simp [hpc]), eraseP_cons_of_neg (by simp [hqc])]
          at h
        exact ih hp hq (List.cons.inj h).2 (mem_of_find?_eq_some hp)
          (mem_of_find?_eq_some hq)

lemma eq_or_mem_eraseP {p : α → Bool} (hp : l.find? p = some a) (hb : b ∈ l) :
    b = a ∨ b ∈ l.eraseP p := by
  induction l with
  | nil => cases hb
  | cons c l ih =>
    cases hpc : p c with
    | true =>
      rw [List.find?_cons_of_pos hpc] at hp
      obtain rfl := Option.some.inj hp
      rw [eraseP_cons_of_pos hpc]
      exact mem_cons.mp hb
    | false =>
      rw [List.find?_cons_of_neg (by simp [hpc])] at hp
      rw [eraseP_cons_of_neg (by simp [hpc])]
      rcases mem_cons.mp hb with rfl | hbl
      · exact Or.inr mem_cons_self
      · exact (ih hp hbl).imp_right (mem_cons_of_mem c)

end Dripline.Found.First
