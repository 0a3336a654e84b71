import Mathlib.Data.List.Nodup

/-!
# Rows with a partial key

A row may carry a key or not, and no two rows carry the same one.
-/

namespace Dripline.Found.Keyed

open List

variable {α κ : Type*} {l : List α} {a : α} {k : κ}

lemma eq_of_key {key : α → Option κ} (hl : (l.filterMap key).Nodup) {b : α} (ha : a ∈ l)
    (hb : b ∈ l) (hak : key a = some k) (hbk : key b = some k) : a = b := by
  induction l with
  | nil => cases ha
  | cons x l ih =>
    have hl' : (l.filterMap key).Nodup := by
      cases hx : key x with
      | none => rwa [filterMap_cons_none hx] at hl
      | some j =>
        rw [filterMap_cons_some hx] at hl
        exact (nodup_cons.mp hl).2
    -- the head's key is not met again
    have hhead : ∀ y ∈ l, key x = some k → key y ≠ some k := by
      intro y hy hx hyk
      rw [filterMap_cons_some hx] at hl
      exact (nodup_cons.mp hl).1 (mem_filterMap.mpr ⟨y, hy, hyk⟩)
    rcases mem_cons.mp ha with rfl | ha'
    · rcases mem_cons.mp hb with rfl | hb'
      · rfl
      · exact absurd hbk (hhead b hb' hak)
    · rcases mem_cons.mp hb with rfl | hb'
      · exact absurd hak (hhead a ha' hbk)
      · exact ih hl' ha' hb'

lemma nodup_keys {key : α → Option κ} (hl : l.Nodup)
    (hkey : ∀ a ∈ l, ∀ b ∈ l, ∀ k, key a = some k → key b = some k → a = b) :
    (l.filterMap key).Nodup := by
  refine pairwise_filterMap.mpr (List.Pairwise.imp_of_mem ?_ hl)
  intro a b ha hb hne k hk j hj hkj
  subst hkj
  exact hne (hkey a ha b hb k hk hj)

lemma nodup_filterMap_of_map {key : α → Option κ} (hl : (l.map key).Nodup) :
    (l.filterMap key).Nodup := by
  refine nodup_keys (List.Nodup.of_map _ hl) ?_
  intro a ha b hb k hak hbk
  exact inj_on_of_nodup_map hl ha hb (hak.trans hbk.symm)

lemma find?_key [DecidableEq κ] {key : α → Option κ} (hl : (l.filterMap key).Nodup) (ha : a ∈ l)
    (hak : key a = some k) : l.find? (fun b => key b == some k) = some a := by
  cases hfind : l.find? (fun b => key b == some k) with
  | none =>
    have := List.find?_eq_none.mp hfind a ha
    simp [hak] at this
  | some b =>
    have hb : key b = some k := by simpa using List.find?_some hfind
    rw [eq_of_key hl ha (mem_of_find?_eq_some hfind) hak hb]

lemma map_fst_zip_sublist {β : Type*} (l : List α) (fresh : List β) :
    ((l.zip fresh).map Prod.fst).Sublist l := by
  induction l generalizing fresh with
  | nil => exact List.Sublist.refl _
  | cons a l ih =>
    cases fresh with
    | nil => exact nil_sublist _
    | cons b fresh => exact (ih fresh).cons_cons a

lemma filter_map_of_hidden {f : α → α} {p q : α → Bool} (hleft : ∀ a ∈ l, q a = true → f a = a)
    (htaken : ∀ a ∈ l, q a = false → p (f a) = false) :
    (l.map f).filter p = (l.filter p).filter q := by
  induction l with
  | nil => rfl
  | cons a l ih =>
    have ih' := ih (fun b hb => hleft b (mem_cons_of_mem a hb))
      (fun b hb => htaken b (mem_cons_of_mem a hb))
    rw [map_cons]
    cases hq : q a with
    | true =>
      rw [hleft a mem_cons_self hq]
      cases hp : p a with
      | true =>
        rw [filter_cons_of_pos hp, filter_cons_of_pos hp,
          filter_cons_of_pos hq, ih']
      | false =>
        rw [filter_cons_of_neg (by simp [hp]), filter_cons_of_neg (by simp [hp]),
          ih']
    | false =>
      rw [filter_cons_of_neg (by simp [htaken a mem_cons_self hq]), ih']
      cases hp : p a with
      | true => rw [filter_cons_of_pos hp, filter_cons_of_neg (by simp [hq])]
      | false => rw [filter_cons_of_neg (by simp [hp])]

lemma perm_filter_ne [DecidableEq κ] {key : α → κ} (hl : (l.map key).Nodup) (ha : a ∈ l) :
    (l.filter (key · != key a) ++ [a]).Perm l := by
  induction l with
  | nil => cases ha
  | cons b l ih =>
    obtain ⟨hb, hl'⟩ := nodup_cons.mp hl
    rcases mem_cons.mp ha with rfl | ha'
    · -- the key is not met again
      have hrest : l.filter (key · != key a) = l := by
        refine filter_eq_self.mpr fun c hc => ?_
        have hne : key c ≠ key a := fun hkey => hb (hkey ▸ mem_map_of_mem hc)
        simpa using hne
      rw [filter_cons_of_neg (by simp), hrest]
      exact perm_append_singleton a l
    · have hne : key b ≠ key a := fun hkey => hb (hkey ▸ mem_map_of_mem ha')
      rw [filter_cons_of_pos (by simpa using hne)]
      exact (ih hl' ha').cons b

lemma countP_filter_ne [DecidableEq κ] {key : α → κ} (hl : (l.map key).Nodup) (ha : a ∈ l)
    (p : α → Bool) :
    (l.filter (key · != key a)).countP p + (if p a then 1 else 0) = l.countP p := by
  rw [← (perm_filter_ne hl ha).countP_eq p, countP_append, countP_singleton]

end Dripline.Found.Keyed
