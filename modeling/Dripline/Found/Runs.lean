import Mathlib.Data.List.SplitBy

/-!
# Contiguous runs of equal keys
-/

namespace Dripline.Found.Runs

open List

variable {α β κ : Type*} [DecidableEq κ] (key : α → κ)

/-- The maximal contiguous runs of equal keys. -/
def runs (l : List α) : List (List α) :=
  l.splitBy fun a b => key a == key b

@[simp] lemma runs_nil : runs key ([] : List α) = [] := rfl

@[simp] lemma flatten_runs (l : List α) : (runs key l).flatten = l :=
  flatten_splitBy _ l

variable {l g : List α}

lemma ne_nil_of_mem_runs (hg : g ∈ runs key l) : g ≠ [] :=
  ne_nil_of_mem_splitBy hg

lemma key_eq_of_mem_run (hg : g ∈ runs key l) {a b : α} (ha : a ∈ g) (hb : b ∈ g) :
    key a = key b := by
  have hchain : g.IsChain fun a b => key a = key b :=
    (isChain_of_mem_splitBy hg).imp fun _ _ h => by simpa using h
  have htrans : IsTrans α fun a b => key a = key b := ⟨fun _ _ _ h h' => h.trans h'⟩
  have hpw : g.Pairwise fun a b => key a = key b := isChain_iff_pairwise.mp hchain
  have hsymm : Std.Symm fun a b : α => key a = key b := ⟨fun _ _ h => h.symm⟩
  exact List.Pairwise.forall_of_forall (R := fun a b => key a = key b) (fun _ _ => rfl) hpw ha hb

variable {d : α}

/-- **A run between its neighbours**: the list is `pre ++ g ++ post`, and the elements next to the
run have another key. -/
lemma runs_eq_append (hg : g ∈ runs key l) (hd : d ∈ g) :
    ∃ pre post, l = pre ++ g ++ post ∧ (∀ z ∈ pre.getLast?, key z ≠ key d) ∧
      (∀ z ∈ post.head?, key z ≠ key d) := by
  obtain ⟨gs₁, gs₂, hgs⟩ := append_of_mem hg
  have hchain := isChain_getLast_head_splitBy (fun a b : α => key a == key b) l
  have hflat : l = gs₁.flatten ++ g ++ gs₂.flatten := by
    rw [← flatten_runs key l, hgs]
    simp
  have hmem : ∀ h, h ∈ gs₁ ∨ h ∈ gs₂ → h ∈ runs key l := by
    intro h hh
    rw [hgs]
    rcases hh with hh | hh <;> simp [hh]
  refine ⟨gs₁.flatten, gs₂.flatten, hflat, ?_, ?_⟩
  · intro z hz
    rcases eq_nil_or_concat' gs₁ with rfl | ⟨gs, h, rfl⟩
    · simp at hz
    · have hne : h ≠ [] := ne_nil_of_mem_runs key (hmem h (Or.inl (by simp)))
      have hzl : z = h.getLast hne := by
        have hlast : (gs ++ [h]).flatten.getLast? = some (h.getLast hne) := by
          rw [flatten_append, flatten_singleton,
            List.getLast?_append_of_ne_nil _ hne, List.getLast?_eq_some_getLast hne]
        rw [hlast] at hz
        simpa using hz.symm
      have hsplit : (gs ++ h :: g :: gs₂).IsChain
          fun a b => ∃ ha hb, (key (a.getLast ha) == key (b.head hb)) = false := by
        have : gs ++ h :: g :: gs₂ = runs key l := by rw [hgs]; simp
        rw [this]
        exact hchain
      have hrel := (isChain_append.mp hsplit).2.1
      obtain ⟨ha, hb, hneq⟩ := (isChain_cons_cons.mp hrel).1
      rw [hzl]
      intro heq
      have hgd : key (g.head hb) = key d := key_eq_of_mem_run key hg (head_mem hb) hd
      simp [heq, hgd] at hneq
  · intro z hz
    cases gs₂ with
    | nil => simp at hz
    | cons h gs =>
      have hne : h ≠ [] := ne_nil_of_mem_runs key (hmem h (Or.inr (by simp)))
      have hzh : z = h.head hne := by
        rw [flatten_cons, List.head?_append_of_ne_nil _ hne, List.head?_eq_some_head hne]
          at hz
        simpa using hz.symm
      have hsplit : (gs₁ ++ g :: h :: gs).IsChain
          fun a b => ∃ ha hb, (key (a.getLast ha) == key (b.head hb)) = false := by
        rw [← hgs]
        exact hchain
      have hrel := (isChain_append.mp hsplit).2.1
      obtain ⟨ha, hb, hneq⟩ := (isChain_cons_cons.mp hrel).1
      rw [hzh]
      intro heq
      have hgd : key (g.getLast ha) = key d :=
        key_eq_of_mem_run key hg (getLast_mem ha) hd
      simp [heq, hgd] at hneq

/-- The `p`-elements of one key are never separated by an element of another key. -/
def Unseparated (p : α → Bool) (l : List α) : Prop :=
  ∀ x z y, [x, z, y].Sublist l → p x = true → p y = true → key x = key y → key z = key x

/-- **What a run holds of its key**: all of it, as far as `p` can see. -/
lemma filter_run {p : α → Bool} (hl : Unseparated key p l) (hg : g ∈ runs key l) (hd : d ∈ g)
    (hp : p d = true) : g.filter p = l.filter fun a => p a && (key a == key d) := by
  obtain ⟨pre, post, hflat, hpre, hpost⟩ := runs_eq_append key hg hd
  have hin : g.filter (fun a => p a && (key a == key d)) = g.filter p := by
    apply filter_congr
    intro a ha
    simp [key_eq_of_mem_run key hg ha hd]
  have hnone_pre : pre.filter (fun a => p a && (key a == key d)) = [] := by
    rw [filter_eq_nil_iff]
    intro x hx hxp
    simp only [Bool.and_eq_true, beq_iff_eq] at hxp
    rcases eq_nil_or_concat' pre with rfl | ⟨pre', z, rfl⟩
    · simp at hx
    · have hz : key z ≠ key d := hpre z (by simp)
      rcases mem_append.mp hx with hx' | hx'
      · -- `x`, then the neighbour `z`, then `d`
        have hsub : [x, z, d].Sublist l := by
          rw [hflat]
          have h1 : [x].Sublist pre' := singleton_sublist.mpr hx'
          have h2 : [d].Sublist g := singleton_sublist.mpr hd
          have h3 := ((h1.append (List.Sublist.refl [z])).append h2).append
            (nil_sublist post)
          simpa using h3
        exact hz ((hl x z d hsub hxp.1 hp hxp.2).trans hxp.2)
      · rw [mem_singleton.mp hx'] at hxp
        exact hz hxp.2
  have hnone_post : post.filter (fun a => p a && (key a == key d)) = [] := by
    rw [filter_eq_nil_iff]
    intro x hx hxp
    simp only [Bool.and_eq_true, beq_iff_eq] at hxp
    cases post with
    | nil => simp at hx
    | cons z post' =>
      have hz : key z ≠ key d := hpost z (by simp)
      rcases mem_cons.mp hx with rfl | hx'
      · exact hz hxp.2
      · have hsub : [d, z, x].Sublist l := by
          rw [hflat]
          have h1 : [x].Sublist post' := singleton_sublist.mpr hx'
          have h2 : [d].Sublist g := singleton_sublist.mpr hd
          have h3 := ((nil_sublist pre).append h2).append (h1.cons_cons z)
          simpa using h3
        exact hz (hl d z x hsub hp hxp.1 hxp.2.symm)
  rw [hflat, filter_append, filter_append, hnone_pre, hnone_post, hin]
  simp

/-- **A pass over the runs is a pass over the list**, when what it does with an element is a
function of the element. -/
lemma flatMap_runs {q : α → Bool} {f : List α → α → β} {h : α → β}
    (hf : ∀ g ∈ runs key l, ∀ d ∈ g, q d = true → f g d = h d) :
    ((runs key l).flatMap fun g => (g.filter q).map (f g)) = (l.filter q).map h := by
  have hcongr : ((runs key l).flatMap fun g => (g.filter q).map (f g)) =
      (runs key l).flatMap fun g => (g.filter q).map h := by
    apply flatMap_congr
    intro g hg
    apply map_congr_left
    intro d hd
    exact hf g hg d (mem_of_mem_filter hd) (of_mem_filter hd)
  rw [hcongr]
  conv_rhs => rw [← flatten_runs key l]
  generalize runs key l = gs
  induction gs with
  | nil => rfl
  | cons g gs ih => simp [ih]

end Dripline.Found.Runs
