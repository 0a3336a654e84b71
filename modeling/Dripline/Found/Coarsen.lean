import Mathlib

/-!
# Joining the entries of a period

An entry of a series has a key, and entries can be joined. A coarser series joins the entries whose
keys fall into one period, and stamps each joint entry with its period.
-/

namespace Dripline.Found.Coarsen

open List

variable {α K : Type*}

/-- Joining is associative, and reads the stamp of neither entry. -/
structure Joins (key : α → K) (join : α → α → α) (stamp : K → α → α) : Prop where
  assoc : ∀ a b c, join (join a b) c = join a (join b c)
  key_stamp : ∀ k a, key (stamp k a) = k
  stamp_stamp : ∀ k k' a, stamp k (stamp k' a) = stamp k a
  stamp_left : ∀ k k' a b, stamp k (join (stamp k' a) b) = stamp k (join a b)
  stamp_right : ∀ k k' a b, stamp k (join a (stamp k' b)) = stamp k (join a b)

variable [DecidableEq K] (key : α → K) (join : α → α → α) (stamp : K → α → α) (period : K → K)

/-- One more entry in front of a coarser series: it joins the first if that is of its period. -/
def push (a : α) : List α → List α
  | [] => [stamp (period (key a)) a]
  | b :: rest =>
    if key b = period (key a) then stamp (period (key a)) (join a b) :: rest
    else stamp (period (key a)) a :: b :: rest

/-- The coarser series. -/
def coarsen : List α → List α
  | [] => []
  | a :: l => push key join stamp period a (coarsen l)

variable {key join stamp period} {coarser : K → K}

@[simp] lemma coarsen_nil : coarsen key join stamp period [] = [] := rfl

lemma coarsen_cons (a : α) (l : List α) : coarsen key join stamp period (a :: l) =
    push key join stamp period a (coarsen key join stamp period l) := rfl

variable (key join stamp period) in
lemma push_cases (a : α) (l : List α) :
    push key join stamp period a l = stamp (period (key a)) a :: l ∧
        (∀ b ∈ l.head?, key b ≠ period (key a)) ∨
      ∃ b rest, l = b :: rest ∧ key b = period (key a) ∧
        push key join stamp period a l = stamp (period (key a)) (join a b) :: rest := by
  cases l with
  | nil => exact Or.inl ⟨rfl, by simp⟩
  | cons b rest =>
    by_cases hkey : key b = period (key a)
    · exact Or.inr ⟨b, rest, rfl, hkey, if_pos hkey⟩
    · exact Or.inl ⟨if_neg hkey, by simpa using hkey⟩

variable {k : K} {a b : α}

lemma push_stamp_join (h : Joins key join stamp) (hk : period k = period (key a))
    (hb : period (key b) = period (key a)) (l : List α) :
    push key join stamp period (stamp k (join a b)) l =
      push key join stamp period a (push key join stamp period b l) := by
  cases l with
  | nil =>
    simp only [push, h.key_stamp, hk, hb, if_true, h.stamp_stamp, h.stamp_right]
  | cons c rest =>
    by_cases hc : key c = period (key a)
    · simp only [push, h.key_stamp, hk, hb, hc, if_true, h.stamp_left, h.stamp_right, h.assoc]
    · simp only [push, h.key_stamp, hk, hb, hc, if_false, if_true, h.stamp_stamp, h.stamp_right]

lemma push_stamp (h : Joins key join stamp) (hk : period k = period (key a)) (l : List α) :
    push key join stamp period (stamp k a) l = push key join stamp period a l := by
  cases l with
  | nil => simp only [push, h.key_stamp, hk, h.stamp_stamp]
  | cons c rest =>
    by_cases hc : key c = period (key a)
    · simp only [push, h.key_stamp, hk, hc, if_true, h.stamp_left]
    · simp only [push, h.key_stamp, hk, hc, if_false, h.stamp_stamp]

/-- **Coarser after finer is coarser at once**, where a finer period is within a coarser one. -/
lemma coarsen_coarsen (h : Joins key join stamp) (hcoarser : ∀ k, coarser (period k) = coarser k)
    (l : List α) : coarsen key join stamp coarser (coarsen key join stamp period l) =
      coarsen key join stamp coarser l := by
  induction l with
  | nil => rfl
  | cons a l ih =>
    rw [coarsen_cons, coarsen_cons, ← ih]
    rcases push_cases key join stamp period a (coarsen key join stamp period l) with
      ⟨hpush, -⟩ | ⟨b, rest, hl, hb, hpush⟩
    · rw [hpush, coarsen_cons, push_stamp h (hcoarser _)]
    · rw [hpush, hl, coarsen_cons, coarsen_cons, push_stamp_join h (hcoarser _)]
      rw [hb, hcoarser]

variable {l : List α}

lemma exists_of_mem_coarsen (h : Joins key join stamp) (hb : b ∈ coarsen key join stamp period l) :
    ∃ a ∈ l, period (key a) = key b := by
  induction l generalizing b with
  | nil => cases hb
  | cons a l ih =>
    have hrest : ∀ c ∈ coarsen key join stamp period l, ∃ a' ∈ a :: l, period (key a') = key c := by
      intro c hc
      obtain ⟨a', ha', hkey⟩ := ih hc
      exact ⟨a', mem_cons_of_mem a ha', hkey⟩
    rw [coarsen_cons] at hb
    rcases push_cases key join stamp period a (coarsen key join stamp period l) with
      ⟨hpush, -⟩ | ⟨c, rest, hl, -, hpush⟩
    · rw [hpush] at hb
      rcases mem_cons.mp hb with rfl | hb'
      · exact ⟨a, mem_cons_self, (h.key_stamp _ _).symm⟩
      · exact hrest b hb'
    · rw [hpush] at hb
      rcases mem_cons.mp hb with rfl | hb'
      · exact ⟨a, mem_cons_self, (h.key_stamp _ _).symm⟩
      · exact hrest b (hl ▸ mem_cons_of_mem c hb')

/-- **A series that ascends is coarsened to one that ascends strictly.** -/
lemma pairwise_coarsen [LinearOrder K] (h : Joins key join stamp) (hperiod : Monotone period)
    (hl : l.Pairwise (key · ≤ key ·)) :
    (coarsen key join stamp period l).Pairwise (key · < key ·) := by
  induction l with
  | nil => exact List.Pairwise.nil
  | cons a l ih =>
    obtain ⟨ha, hrest⟩ := pairwise_cons.mp hl
    have hle : ∀ b ∈ coarsen key join stamp period l, period (key a) ≤ key b := by
      intro b hb
      obtain ⟨a', ha', hkey⟩ := exists_of_mem_coarsen h hb
      exact hkey ▸ hperiod (ha a' ha')
    have hcoarse := ih hrest
    rw [coarsen_cons]
    rcases push_cases key join stamp period a (coarsen key join stamp period l) with
      ⟨hpush, hfirst⟩ | ⟨b, rest, hl, hb, hpush⟩
    · rw [hpush]
      refine pairwise_cons.mpr ⟨fun c hc => ?_, hcoarse⟩
      rw [h.key_stamp]
      refine lt_of_le_of_ne (hle c hc) ?_
      -- the first has the least key, and it is another
      cases hlist : coarsen key join stamp period l with
      | nil =>
        rw [hlist] at hc
        cases hc
      | cons b rest =>
        rw [hlist] at hc hfirst hcoarse
        have hb : key b ≠ period (key a) := hfirst b rfl
        rcases mem_cons.mp hc with rfl | hc'
        · exact hb.symm
        · have hlt := (pairwise_cons.mp hcoarse).1 c hc'
          have hleb : period (key a) ≤ key b := hle b (by rw [hlist]; exact mem_cons_self)
          exact (lt_of_le_of_lt hleb hlt).ne
    · rw [hl] at hcoarse
      obtain ⟨hlt, hpair⟩ := pairwise_cons.mp hcoarse
      rw [hpush]
      refine pairwise_cons.mpr ⟨fun c hc => ?_, hpair⟩
      rw [h.key_stamp, ← hb]
      exact hlt c hc

/-- **Each entry is its period's entries joined**, by any function that joins from the front. -/
lemma find?_coarsen [LinearOrder K] (h : Joins key join stamp) (hperiod : Monotone period)
    {joint : List α → Option α} (hnil : joint [] = none)
    (hcons : ∀ a l, joint (a :: l) = some ((joint l).elim (stamp k a) fun b => stamp k (join a b)))
    (hl : l.Pairwise (key · ≤ key ·)) :
    (coarsen key join stamp period l).find? (fun b => decide (key b = k)) =
      joint (l.filter fun a => decide (period (key a) = k)) := by
  induction l with
  | nil => exact hnil.symm
  | cons a l ih =>
    have hstrict := pairwise_coarsen h hperiod hl
    have hrest := ih (pairwise_cons.mp hl).2
    rw [coarsen_cons] at hstrict ⊢
    by_cases hk : period (key a) = k
    · rw [filter_cons_of_pos (by simpa using hk), hcons, ← hrest]
      rcases push_cases key join stamp period a (coarsen key join stamp period l) with
        ⟨hpush, -⟩ | ⟨b, rest, hb, hkey, hpush⟩
      · -- the others are of later periods
        have hnone : (coarsen key join stamp period l).find? (fun b => decide (key b = k)) = none := by
          rw [List.find?_eq_none]
          intro b hb
          rw [hpush] at hstrict
          have hlt := (pairwise_cons.mp hstrict).1 b hb
          rw [h.key_stamp, hk] at hlt
          simpa using hlt.ne'
        rw [hpush, hnone, List.find?_cons_of_pos (by simpa [h.key_stamp] using hk), hk]
        rfl
      · rw [hpush, hb, List.find?_cons_of_pos (by simpa [h.key_stamp] using hk),
          List.find?_cons_of_pos (by simpa [hkey] using hk), hk]
        rfl
    · rw [filter_cons_of_neg (by simpa using hk), ← hrest]
      rcases push_cases key join stamp period a (coarsen key join stamp period l) with
        ⟨hpush, -⟩ | ⟨b, rest, hb, hkey, hpush⟩
      · rw [hpush, List.find?_cons_of_neg (by simpa [h.key_stamp] using hk)]
      · rw [hpush, hb, List.find?_cons_of_neg (by simpa [h.key_stamp] using hk),
          List.find?_cons_of_neg (by simpa [hkey] using hk)]

/-- **What adds up under joining is conserved.** -/
lemma sum_coarsen {M : Type*} [AddCommMonoid M] {weight : α → M}
    (hjoin : ∀ a b, weight (join a b) = weight a + weight b)
    (hstamp : ∀ k a, weight (stamp k a) = weight a) (l : List α) :
    ((coarsen key join stamp period l).map weight).sum = (l.map weight).sum := by
  induction l with
  | nil => rfl
  | cons a l ih =>
    rw [map_cons, sum_cons, ← ih, coarsen_cons]
    rcases push_cases key join stamp period a (coarsen key join stamp period l) with
      ⟨hpush, -⟩ | ⟨b, rest, hl, -, hpush⟩
    · rw [hpush, map_cons, sum_cons, hstamp]
    · rw [hpush, hl, map_cons, map_cons, sum_cons, sum_cons, hstamp, hjoin,
        add_assoc]

end Dripline.Found.Coarsen
