import Mathlib.Data.List.Basic
import Mathlib.Tactic.Linarith
import Mathlib.Tactic.Ring

/-!
# Amounts gathered along a line

A line from a start over stops, with a weight up to each stop. On the way along it something is
gathered: the gain of a coordinate, times the weight.
-/

namespace Dripline.Found.Piecewise

variable {α K : Type*} [LinearOrder α]

/-- The stops lie one after the other. -/
def Ordered : α → List (α × K) → Prop
  | _, [] => True
  | start, (stop, _) :: rest => start ≤ stop ∧ Ordered stop rest

/-- The ends and the weight of a stretch. -/
def stretchAt : α → List (α × K) → ℕ → Option (α × α × K)
  | _, [], _ => none
  | start, (stop, weight) :: _, 0 => some (start, stop, weight)
  | _, (stop, _) :: rest, index + 1 => stretchAt stop rest index

variable {stops : List (α × K)} {start first last : α} {weight : K} {index : ℕ}

lemma stretchAt_le (hordered : Ordered start stops)
    (h : stretchAt start stops index = some (first, last, weight)) :
    start ≤ first ∧ first ≤ last := by
  induction stops generalizing start index with
  | nil => cases h
  | cons stop rest ih =>
    obtain ⟨hfirst, hrest⟩ := hordered
    cases index with
    | zero =>
      obtain ⟨rfl, rfl⟩ : start = first ∧ stop = (last, weight) := by simpa [stretchAt] using h
      exact ⟨le_rfl, hfirst⟩
    | succ index =>
      obtain ⟨hle, hle'⟩ := ih hrest h
      exact ⟨hfirst.trans hle, hle'⟩

omit [LinearOrder α] in
lemma stretchAt_mem (h : stretchAt start stops index = some (first, last, weight)) :
    index < stops.length ∧ (last, weight) ∈ stops ∧
      (first = start ∨ ∃ stop ∈ stops, stop.1 = first) := by
  induction stops generalizing start index with
  | nil => cases h
  | cons stop rest ih =>
    cases index with
    | zero =>
      obtain ⟨rfl, rfl⟩ : start = first ∧ stop = (last, weight) := by simpa [stretchAt] using h
      simp
    | succ index =>
      obtain ⟨hlength, hlast, hfirst⟩ := ih h
      refine ⟨by simpa using hlength, List.mem_cons_of_mem _ hlast, .inr ?_⟩
      rcases hfirst with rfl | ⟨other, hother, rfl⟩
      · exact ⟨stop, List.mem_cons_self, rfl⟩
      · exact ⟨other, List.mem_cons_of_mem _ hother, rfl⟩

variable [CommRing K] [LinearOrder K] [IsStrictOrderedRing K]

/-- What has been gathered up to a place. -/
def gathered (c : α → K) : α → List (α × K) → α → K
  | _, [], _ => 0
  | start, (stop, weight) :: rest, place =>
    weight * (c (max start (min place stop)) - c start) + gathered c stop rest place

omit [LinearOrder K] [IsStrictOrderedRing K] in
lemma gathered_of_le (c : α → K) {place : α} (hordered : Ordered start stops) (h : place ≤ start) :
    gathered c start stops place = 0 := by
  induction stops generalizing start with
  | nil => rfl
  | cons stop rest ih =>
    obtain ⟨hfirst, hrest⟩ := hordered
    have hstart : max start (min place stop.1) = start := max_eq_left ((min_le_left _ _).trans h)
    rw [gathered, hstart, sub_self, mul_zero, zero_add]
    exact ih hrest (h.trans hfirst)

variable {near far : α}

/-- **No less farther on.** -/
lemma gathered_mono {c : α → K} (hc : Monotone c) (hweights : ∀ stop ∈ stops, 0 ≤ stop.2)
    (h : near ≤ far) : gathered c start stops near ≤ gathered c start stops far := by
  induction stops generalizing start with
  | nil => exact le_rfl
  | cons stop rest ih =>
    have hplace : c (max start (min near stop.1)) ≤ c (max start (min far stop.1)) :=
      hc (max_le_max_left _ (min_le_min_right _ h))
    have hgain := mul_le_mul_of_nonneg_left (sub_le_sub_right hplace (c start))
      (hweights stop List.mem_cons_self)
    exact add_le_add hgain (ih fun other hother => hweights other (List.mem_cons_of_mem _ hother))

omit [LinearOrder K] [IsStrictOrderedRing K] in
/-- **Within one stretch**, the gain of the coordinate times the weight of the stretch. -/
lemma gathered_move (c : α → K) (hordered : Ordered start stops)
    (hstretch : stretchAt start stops index = some (first, last, weight)) (hfirst : first ≤ near)
    (h : near ≤ far) (hlast : far ≤ last) :
    gathered c start stops far - gathered c start stops near = weight * (c far - c near) := by
  induction stops generalizing start index with
  | nil => cases hstretch
  | cons stop rest ih =>
    obtain ⟨hstop, hrest⟩ := hordered
    cases index with
    | zero =>
      obtain ⟨rfl, rfl⟩ : start = first ∧ stop = (last, weight) := by
        simpa [stretchAt] using hstretch
      have hnear : max start (min near last) = near := by
        rw [min_eq_left (h.trans hlast), max_eq_right hfirst]
      have hfar : max start (min far last) = far := by
        rw [min_eq_left hlast, max_eq_right (hfirst.trans h)]
      rw [gathered, gathered, gathered_of_le c hrest (h.trans hlast), gathered_of_le c hrest hlast,
        hnear, hfar]
      ring
    | succ index =>
      have hbehind : stop.1 ≤ near := ((stretchAt_le hrest hstretch).1).trans hfirst
      have hnear : max start (min near stop.1) = stop.1 := by
        rw [min_eq_right hbehind, max_eq_right hstop]
      have hfar : max start (min far stop.1) = stop.1 := by
        rw [min_eq_right (hbehind.trans h), max_eq_right hstop]
      rw [gathered, gathered, hnear, hfar, ← ih hrest hstretch]
      ring

end Dripline.Found.Piecewise
