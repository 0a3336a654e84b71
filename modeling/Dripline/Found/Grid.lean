import Mathlib.Data.List.Pairwise
import Mathlib.Algebra.Order.Ring.Int
import Mathlib.Algebra.Ring.Divisibility.Basic

/-!
# Points of a grid, and the runs that are missing

Points are multiples of a distance `d`, in ascending order, with repeats.
-/

namespace Dripline.Found.Grid

open List

/-- The first and the last missing point between neighbours, where any is missing. -/
def missing (d : ℤ) : List ℤ → List (ℤ × ℤ)
  | a :: b :: rest => (if a + d < b then [(a + d, b - d)] else []) ++ missing d (b :: rest)
  | _ => []

/-- A maximal run of missing points. -/
structure Run (d : ℤ) (points : List ℤ) (first last : ℤ) : Prop where
  le : first ≤ last
  before : first - d ∈ points
  after : last + d ∈ points
  absent : ∀ t ∈ points, ¬(first ≤ t ∧ t ≤ last)

/-- Points of the grid in ascending order. -/
structure Ascending (d : ℤ) (points : List ℤ) : Prop where
  grid : ∀ t ∈ points, d ∣ t
  ascending : points.Pairwise (· ≤ ·)

variable {d : ℤ} {points : List ℤ}

lemma Ascending.tail {a : ℤ} (h : Ascending d (a :: points)) : Ascending d points :=
  ⟨fun t ht => h.grid t (mem_cons_of_mem a ht), (pairwise_cons.mp h.ascending).2⟩

variable {a : ℤ}

lemma Ascending.head_le (h : Ascending d (a :: points)) : ∀ t ∈ points, a ≤ t :=
  (pairwise_cons.mp h.ascending).1

variable {first last : ℤ}

lemma run_congr {points' : List ℤ} (h : ∀ t, t ∈ points ↔ t ∈ points') :
    Run d points first last ↔ Run d points' first last := by
  constructor
  · intro hrun
    exact ⟨hrun.le, (h _).mp hrun.before, (h _).mp hrun.after, fun t ht => hrun.absent t ((h t).mpr ht)⟩
  · intro hrun
    exact ⟨hrun.le, (h _).mpr hrun.before, (h _).mpr hrun.after,
      fun t ht => hrun.absent t ((h t).mp ht)⟩

variable {b : ℤ}

lemma add_le_of_lt (ha : d ∣ a) (hb : d ∣ b) (h : a < b) : a + d ≤ b := by
  have := Int.le_of_dvd (by omega) (Int.dvd_sub hb ha)
  omega

lemma exists_period (hd : 0 < d) (time : ℤ) : ∃ t, d ∣ t ∧ t ≤ time ∧ time < t + d := by
  refine ⟨d * (time / d), dvd_mul_right d _, Int.mul_ediv_self_le hd.ne', ?_⟩
  exact Int.lt_mul_ediv_self_add hd

variable {t : ℤ}

lemma Run.eq_of_mem {first' last' : ℤ} (hrun : Run d points first last)
    (hrun' : Run d points first' last') (hgrid : ∀ t ∈ points, d ∣ t) (hd : 0 < d)
    (ht : first ≤ t ∧ t ≤ last) (ht' : first' ≤ t ∧ t ≤ last') : first = first' ∧ last = last' := by
  -- the neighbours of either are out of the other
  have hbefore := hrun'.absent _ hrun.before
  have hbefore' := hrun.absent _ hrun'.before
  have hafter := hrun'.absent _ hrun.after
  have hafter' := hrun.absent _ hrun'.after
  have hfirst : d ∣ first := dvd_sub_self_right.mp (hgrid _ hrun.before)
  have hfirst' : d ∣ first' := dvd_sub_self_right.mp (hgrid _ hrun'.before)
  have hlast : d ∣ last := dvd_add_self_right.mp (hgrid _ hrun.after)
  have hlast' : d ∣ last' := dvd_add_self_right.mp (hgrid _ hrun'.after)
  constructor
  · rcases lt_trichotomy first first' with hlt | heq | hlt
    · have := add_le_of_lt hfirst hfirst' hlt
      omega
    · exact heq
    · have := add_le_of_lt hfirst' hfirst hlt
      omega
  · rcases lt_trichotomy last last' with hlt | heq | hlt
    · have := add_le_of_lt hlast hlast' hlt
      omega
    · exact heq
    · have := add_le_of_lt hlast' hlast hlt
      omega

lemma run_cons_cons (hd : 0 < d) {rest : List ℤ} (h : Ascending d (a :: b :: rest)) :
    Run d (a :: b :: rest) first last ↔
      (a + d < b ∧ first = a + d ∧ last = b - d) ∨ Run d (b :: rest) first last := by
  have hb : ∀ t ∈ b :: rest, b ≤ t := by
    intro t ht
    rcases mem_cons.mp ht with rfl | ht
    · exact le_rfl
    · exact h.tail.head_le t ht
  have hab : a ≤ b := h.head_le b mem_cons_self
  constructor
  · intro hrun
    obtain ⟨hle, hbefore, hafter, habsent⟩ := hrun
    -- the point behind the run is above the one before it, so it is not the head
    have hafter' : last + d ∈ b :: rest := by
      refine (mem_cons.mp hafter).resolve_left ?_
      rintro rfl
      rcases mem_cons.mp hbefore with hbefore | hbefore
      · omega
      · have := hb _ hbefore
        omega
    by_cases hmem : first - d ∈ b :: rest
    · exact Or.inr ⟨hle, hmem, hafter', fun t ht => habsent t (mem_cons_of_mem a ht)⟩
    · have hfirst : first - d = a := (mem_cons.mp hbefore).resolve_right hmem
      have hlt : a < b := by
        refine lt_of_le_of_ne hab ?_
        rintro rfl
        exact hmem (hfirst ▸ mem_cons_self)
      have hstep : a + d ≤ b :=
        add_le_of_lt (h.grid a mem_cons_self)
          (h.grid b (mem_cons_of_mem a mem_cons_self)) hlt
      have hout := habsent b (mem_cons_of_mem a mem_cons_self)
      have hlast : last < b := by omega
      have hgrid : d ∣ last := dvd_add_self_right.mp (h.grid _ (mem_cons_of_mem a hafter'))
      have hlast' : last + d ≤ b :=
        add_le_of_lt hgrid (h.grid b (mem_cons_of_mem a mem_cons_self)) hlast
      have := hb _ hafter'
      exact Or.inl ⟨by omega, by omega, by omega⟩
  · rintro (⟨hlt, rfl, rfl⟩ | hrun)
    · have hstep : a + d + d ≤ b :=
        add_le_of_lt (dvd_add_self_right.mpr (h.grid a mem_cons_self))
          (h.grid b (mem_cons_of_mem a mem_cons_self)) hlt
      refine ⟨by omega, by simp, by simp, ?_⟩
      intro t ht
      rcases mem_cons.mp ht with rfl | ht
      · omega
      · have := hb t ht
        omega
    · refine ⟨hrun.le, mem_cons_of_mem a hrun.before, mem_cons_of_mem a hrun.after, ?_⟩
      intro t ht
      rcases mem_cons.mp ht with rfl | ht
      · have := hb _ hrun.before
        omega
      · exact hrun.absent t ht

variable {points : List ℤ} {gap : ℤ × ℤ}

/-- **The missing runs**, all of them and no other. -/
lemma mem_missing (hd : 0 < d) (h : Ascending d points) :
    gap ∈ missing d points ↔ Run d points gap.1 gap.2 := by
  induction points with
  | nil =>
    exact ⟨fun hmem => absurd hmem not_mem_nil, fun hrun => absurd hrun.before not_mem_nil⟩
  | cons a points ih =>
    cases points with
    | nil =>
      refine ⟨fun hmem => absurd hmem not_mem_nil, fun hrun => ?_⟩
      have hbefore := mem_singleton.mp hrun.before
      have hafter := mem_singleton.mp hrun.after
      have := hrun.le
      omega
    | cons b rest =>
      rw [run_cons_cons hd h, ← ih h.tail, missing, mem_append]
      refine or_congr_left ?_
      split
      · next hlt => rw [mem_singleton, Prod.ext_iff]; exact ⟨fun heq => ⟨hlt, heq⟩, And.right⟩
      · next hlt => exact ⟨fun hmem => absurd hmem not_mem_nil, fun heq => absurd heq.1 hlt⟩

lemma exists_before (hd : 0 < d) (h : Ascending d points) (hgap : gap ∈ missing d points) :
    gap.1 - d ∈ points := ((mem_missing hd h).mp hgap).before

lemma pairwise_missing (hd : 0 < d) (h : Ascending d points) :
    (missing d points).Pairwise fun gap gap' => gap.2 + d < gap'.1 := by
  induction points with
  | nil => exact List.Pairwise.nil
  | cons a points ih =>
    cases points with
    | nil => exact List.Pairwise.nil
    | cons b rest =>
      rw [missing]
      split
      · refine pairwise_cons.mpr ⟨?_, ih h.tail⟩
        intro gap hgap
        have hbefore := exists_before hd h.tail hgap
        have hle : b ≤ gap.1 - d := by
          rcases mem_cons.mp hbefore with hbefore | hbefore
          · omega
          · exact h.tail.head_le _ hbefore
        simp only
        omega
      · exact ih h.tail

lemma covered (h : Ascending d points) (ht : d ∣ t) (hbelow : ∃ a ∈ points, a ≤ t)
    (habove : ∃ b ∈ points, t ≤ b) :
    t ∈ points ∨ ∃ gap ∈ missing d points, gap.1 ≤ t ∧ t ≤ gap.2 := by
  induction points with
  | nil => obtain ⟨a, ha, -⟩ := hbelow; cases ha
  | cons a points ih =>
    cases points with
    | nil =>
      obtain ⟨a', ha', hle⟩ := hbelow
      obtain ⟨b', hb', hle'⟩ := habove
      rw [mem_singleton] at ha' hb'
      exact Or.inl (mem_singleton.mpr (by omega))
    | cons b rest =>
      by_cases hbt : b ≤ t
      · -- at or above the next point: in the tail
        have habove' : ∃ c ∈ b :: rest, t ≤ c := by
          obtain ⟨c, hc, hle⟩ := habove
          rcases mem_cons.mp hc with rfl | hc
          · have := h.head_le b mem_cons_self
            exact ⟨b, mem_cons_self, by omega⟩
          · exact ⟨c, hc, hle⟩
        rcases ih h.tail ⟨b, mem_cons_self, hbt⟩ habove' with hmem | ⟨gap, hgap, hin⟩
        · exact Or.inl (mem_cons_of_mem a hmem)
        · exact Or.inr ⟨gap, by rw [missing]; exact mem_append_right _ hgap, hin⟩
      · -- between the first two points
        have hat : a ≤ t := by
          obtain ⟨c, hc, hle⟩ := hbelow
          rcases mem_cons.mp hc with rfl | hc
          · exact hle
          · rcases mem_cons.mp hc with rfl | hc
            · exact absurd hle hbt
            · have := h.tail.head_le c hc
              omega
        rcases eq_or_lt_of_le hat with rfl | hlt
        · exact Or.inl mem_cons_self
        · have hstep := add_le_of_lt (h.grid a mem_cons_self) ht hlt
          have hstep' := add_le_of_lt ht (h.grid b (mem_cons_of_mem a mem_cons_self))
            (lt_of_not_ge hbt)
          refine Or.inr ⟨(a + d, b - d), ?_, hstep, ?_⟩
          · rw [missing, if_pos (by omega)]
            exact mem_cons_self
          · simp only
            omega

end Dripline.Found.Grid
