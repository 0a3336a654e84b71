import Mathlib.Data.List.Nodup

/-!
# A keyed pass, one key at a time
-/

namespace Dripline.Found.Lanes

open List

variable {ε σ τ κ : Type*} [DecidableEq κ]

section pass

variable (key : ε → κ) (step : σ → ε → σ) (view : κ → σ → τ) (lane : τ → ε → τ) (inv : σ → Prop)

lemma inv_foldl (hinv : ∀ s e, inv s → inv (step s e)) {s : σ} (hs : inv s) (l : List ε) :
    inv (l.foldl step s) := by
  induction l generalizing s with
  | nil => exact hs
  | cons e l ih => exact ih (hinv s e hs)

/-- **A keyed pass seen from one key** is the pass over that key's events. -/
lemma view_foldl (hinv : ∀ s e, inv s → inv (step s e))
    (hown : ∀ s e, inv s → view (key e) (step s e) = lane (view (key e) s) e)
    (hother : ∀ s e k, inv s → k ≠ key e → view k (step s e) = view k s) {s : σ} (hs : inv s)
    (l : List ε) (k : κ) :
    view k (l.foldl step s) = (l.filter (key · = k)).foldl lane (view k s) := by
  induction l generalizing s with
  | nil => rfl
  | cons e l ih =>
    rw [foldl_cons, ih (hinv s e hs)]
    by_cases hk : key e = k
    · subst hk
      rw [hown s e hs, filter_cons_of_pos (by simp), foldl_cons]
    · rw [hother s e k hs (Ne.symm hk), filter_cons_of_neg (by simp [hk])]

end pass

/-- **A list is its lanes**, one after another, up to order. -/
lemma perm_flatMap_filter {α : Type*} (key : α → κ) {keys : List κ} (hkeys : keys.Nodup)
    {l : List α} (hl : ∀ a ∈ l, key a ∈ keys) :
    (keys.flatMap fun k => l.filter (key · = k)).Perm l := by
  induction keys generalizing l with
  | nil =>
    rw [eq_nil_iff_forall_not_mem.mpr fun a ha => not_mem_nil (hl a ha)]
    exact List.Perm.refl _
  | cons k keys ih =>
    obtain ⟨hk, hkeys'⟩ := nodup_cons.mp hkeys
    have hrest : ∀ a ∈ l.filter (fun a => !decide (key a = k)), key a ∈ keys := by
      intro a ha
      obtain ⟨ha, hne⟩ := mem_filter.mp ha
      exact (mem_cons.mp (hl a ha)).resolve_left (by simpa using hne)
    have hlanes : (keys.flatMap fun k' => l.filter (key · = k')) =
        keys.flatMap fun k' => (l.filter fun a => !decide (key a = k)).filter (key · = k') := by
      apply flatMap_congr
      intro k' hk'
      rw [filter_filter]
      apply filter_congr
      intro a _
      have hne : k' ≠ k := fun h => hk (h ▸ hk')
      by_cases ha : key a = k'
      · simp [ha, hne]
      · simp [ha]
    rw [flatMap_cons, hlanes]
    exact ((List.Perm.refl _).append (ih hkeys' hrest)).trans (filter_append_perm _ l)

lemma nodup_map_of_lanes {α ν : Type*} [DecidableEq ν] (key : α → κ) (name : α → ν)
    {l : List α} (hlane : ∀ k, ((l.filter (key · = k)).map name).Nodup)
    (hname : ∀ a ∈ l, ∀ b ∈ l, name a = name b → key a = key b) : (l.map name).Nodup := by
  rw [nodup_iff_count_le_one]
  intro n
  by_cases hn : n ∈ l.map name
  · obtain ⟨a, ha, rfl⟩ := mem_map.mp hn
    have hcount : (l.map name).count (name a) =
        ((l.filter (key · = key a)).map name).count (name a) := by
      rw [count_eq_countP, count_eq_countP, countP_map, countP_map,
        countP_filter]
      apply countP_congr
      intro b hb
      simp only [Function.comp_apply, beq_iff_eq, Bool.and_eq_true, decide_eq_true_eq]
      exact ⟨fun h => ⟨h, hname b hb a ha h⟩, fun h => h.1⟩
    rw [hcount]
    exact nodup_iff_count_le_one.mp (hlane (key a)) (name a)
  · rw [count_eq_zero_of_not_mem hn]
    exact Nat.zero_le _

end Dripline.Found.Lanes
