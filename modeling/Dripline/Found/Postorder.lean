import Mathlib.Data.List.Nodup
import Mathlib.Logic.Relation

/-!
# Depth-first order

The nodes of a graph, each listed after the nodes that it leads to.
-/

namespace Dripline.Found.Postorder

open Relation List

variable {α : Type*}

/-- Nodes outside the list lead nowhere. -/
structure Graph (α : Type*) where
  nodes : List α
  next : α → List α
  next_outside : ∀ a, a ∉ nodes → next a = []

/-- One node leads to another. -/
def Graph.Next (g : Graph α) (a b : α) : Prop := b ∈ g.next a

/-- One element stands before another. -/
def Before (l : List α) (a b : α) : Prop := [a, b].Sublist l

/-- Each node stands once, behind all it leads to. -/
inductive Closed (g : Graph α) : List α → Prop
  | nil : Closed g []
  | snoc {done : List α} {a : α} (h : Closed g done) (hnew : a ∉ done)
      (hnext : ∀ b ∈ g.next a, b ∈ done) : Closed g (done ++ [a])

namespace Closed

variable {g : Graph α} {done : List α}

lemma nodup (h : Closed g done) : done.Nodup := by
  induction h with
  | nil => exact nodup_nil
  | snoc _ hnew _ ih =>
    refine nodup_append.mpr ⟨ih, nodup_singleton _, ?_⟩
    intro b hb c hc
    obtain rfl := mem_singleton.mp hc
    exact ne_of_mem_of_not_mem hb hnew

variable {a : α}

lemma before (h : Closed g done) {b : α} (ha : a ∈ done) (hab : TransGen g.Next a b) :
    Before done b a := by
  induction h generalizing a b with
  | nil => cases ha
  | @snoc done c _ _ hnext ih =>
    obtain ha | ha := mem_append.mp ha
    · exact (ih ha hab).trans (sublist_append_left done [c])
    · obtain rfl := mem_singleton.mp ha
      obtain ⟨x, hax, hxb⟩ := TransGen.head'_iff.mp hab
      have hb : b ∈ done := by
        obtain rfl | hxb := reflTransGen_iff_eq_or_transGen.mp hxb
        · exact hnext b hax
        · exact (ih (hnext x hax) hxb).subset mem_cons_self
      exact List.Sublist.append (singleton_sublist.mpr hb) (List.Sublist.refl [a])

lemma acyclic (h : Closed g done) (ha : a ∈ done) : ¬TransGen g.Next a a := by
  intro hcycle
  have htwice : [a, a].Nodup := h.nodup.sublist (h.before ha hcycle)
  simp at htwice

end Closed

variable {l : List α}

lemma exists_of_foldlM_error {β ε : Type*} {f : β → α → Except ε β} {b : β} {e : ε}
    (h : l.foldlM f b = .error e) : ∃ a ∈ l, ∃ b', f b' a = .error e := by
  induction l generalizing b with
  | nil => cases h
  | cons a l ih =>
    rw [foldlM_cons] at h
    cases hfirst : f b a with
    | error e' =>
      rw [hfirst] at h
      obtain rfl : e' = e := by simpa [bind, Except.bind] using h
      exact ⟨a, mem_cons_self, b, hfirst⟩
    | ok b' =>
      rw [hfirst] at h
      obtain ⟨x, hx, hfail⟩ := ih h
      exact ⟨x, mem_cons_of_mem a hx, hfail⟩

variable {b : α}

lemma Before.reverse {a : α} (h : Before l a b) : Before l.reverse b a :=
  List.Sublist.reverse h

lemma before_filter {p : α → Bool} {a : α} (ha : p a) (hb : p b) :
    Before (l.filter p) a b ↔ Before l a b := by
  constructor
  · exact fun h => h.trans filter_sublist
  · intro h
    have := h.filter p
    rwa [filter_cons_of_pos ha, filter_cons_of_pos hb, filter_nil] at this

/-- Some node that the roots reach leads back to itself. -/
def Graph.Cyclic (g : Graph α) (roots : List α) : Prop :=
  ∃ a ∈ roots, ∃ c, ReflTransGen g.Next a c ∧ TransGen g.Next c c

lemma not_cyclic_of_rank {g : Graph α} (rank : α → ℕ) (h : ∀ a, ∀ b ∈ g.next a, rank b < rank a)
    (roots : List α) : ¬g.Cyclic roots := by
  rintro ⟨_, -, c, -, hcycle⟩
  have hdown : ∀ b, TransGen g.Next c b → rank b < rank c := by
    intro b hb
    induction hb with
    | single hab => exact h _ _ hab
    | tail _ hbd ih => exact Nat.lt_trans (h _ _ hbd) ih
  exact absurd (hdown c hcycle) (Nat.lt_irrefl _)

section Search

variable [DecidableEq α] (g : Graph α)

/-- How many of the nodes are not on the way. -/
def Graph.free (path : List α) : ℕ := (g.nodes.filter fun a => decide (a ∉ path)).length

variable {path : List α} {a : α}

lemma Graph.free_cons_lt (hnode : a ∈ g.nodes) (hfree : a ∉ path) :
    g.free (a :: path) < g.free path := by
  have hsub : (g.nodes.filter fun b => decide (b ∉ a :: path)).Sublist
      (g.nodes.filter fun b => decide (b ∉ path)) := by
    refine monotone_filter_right g.nodes fun b hb => ?_
    simp only [mem_cons, not_or, decide_eq_true_eq] at hb ⊢
    exact hb.2
  refine Nat.lt_of_not_le fun hge => ?_
  have hmem : a ∈ g.nodes.filter fun b => decide (b ∉ path) :=
    mem_filter.mpr ⟨hnode, by simpa using hfree⟩
  rw [← hsub.eq_of_length_le hge] at hmem
  simp at hmem

/-- The search from one node: on its way, what it leads to comes first. -/
def Graph.visit (path : List α) (a : α) (done : List α) : Except α (List α) :=
  if a ∈ done then .ok done
  else if _hpath : a ∈ path then .error a
  else if _hnode : a ∈ g.nodes then
    match (g.next a).foldlM (fun done b => Graph.visit (a :: path) b done) done with
    | .error b => .error b
    | .ok done => .ok (done ++ [a])
  else .ok (done ++ [a])
termination_by g.free path
decreasing_by exact g.free_cons_lt _hnode _hpath

/-- The search from several nodes. -/
def Graph.sort (roots : List α) : Except α (List α) :=
  roots.foldlM (fun done a => g.visit [] a done) []

/-- What one search adds: the node, and nothing that cannot be reached from it. -/
structure Adds (path : List α) (a : α) (done done' : List α) : Prop where
  closed : Closed g done'
  keeps : done <+: done'
  mem : a ∈ done'
  reached : ∀ b ∈ done', b ∈ done ∨ ReflTransGen g.Next a b
  aside : ∀ b ∈ path, b ∈ done' → b ∈ done

/-- The same of several nodes, one after another. -/
structure AddsAll (path : List α) (roots done done' : List α) : Prop where
  closed : Closed g done'
  keeps : done <+: done'
  mem : ∀ a ∈ roots, a ∈ done'
  reached : ∀ b ∈ done', b ∈ done ∨ ∃ a ∈ roots, ReflTransGen g.Next a b
  aside : ∀ b ∈ path, b ∈ done' → b ∈ done

variable {g} {roots done done' : List α}

lemma addsAll_of_adds
    (hvisit : ∀ a done done', Closed g done → g.visit path a done = .ok done' →
      Adds g path a done done')
    (hdone : Closed g done) (h : roots.foldlM (fun done a => g.visit path a done) done = .ok done') :
    AddsAll g path roots done done' := by
  induction roots generalizing done with
  | nil =>
    obtain rfl : done = done' := by simpa [pure, Except.pure] using h
    exact ⟨hdone, prefix_refl _, by simp, fun b hb => .inl hb, fun _ _ hb => hb⟩
  | cons a roots ih =>
    rw [foldlM_cons] at h
    cases hfirst : g.visit path a done with
    | error b => rw [hfirst] at h; cases h
    | ok mid =>
      rw [hfirst] at h
      have hadds := hvisit a done mid hdone hfirst
      have hrest := ih hadds.closed h
      refine ⟨hrest.closed, hadds.keeps.trans hrest.keeps, ?_, ?_, ?_⟩
      · intro b hb
        obtain rfl | hb := mem_cons.mp hb
        · exact hrest.keeps.subset hadds.mem
        · exact hrest.mem b hb
      · intro b hb
        obtain hmid | ⟨c, hc, hcb⟩ := hrest.reached b hb
        · exact (hadds.reached b hmid).imp_right fun hab => ⟨a, mem_cons_self, hab⟩
        · exact .inr ⟨c, mem_cons_of_mem a hc, hcb⟩
      · exact fun b hb hdone' => hadds.aside b hb (hrest.aside b hb hdone')

/-- **A search that succeeds adds its node, behind all it leads to.** -/
lemma visit_ok (hdone : Closed g done) (h : g.visit path a done = .ok done') :
    Adds g path a done done' := by
  induction hfree : g.free path using Nat.strongRecOn generalizing path a done done' with
  | _ n ih =>
    rw [Graph.visit] at h
    split_ifs at h with hmem hpath hnode
    · obtain rfl : done = done' := by simpa using h
      exact ⟨hdone, prefix_refl _, hmem, fun b hb => .inl hb, fun _ _ hb => hb⟩
    · split at h
      · cases h
      · rename_i mid hmid
        obtain rfl : mid ++ [a] = done' := by simpa using h
        have hall : AddsAll g (a :: path) (g.next a) done mid := by
          refine addsAll_of_adds (fun b done done' hdone hb => ?_) hdone hmid
          exact ih _ (hfree ▸ g.free_cons_lt hnode hpath) hdone hb rfl
        have hfresh : a ∉ mid := fun ha => hmem (hall.aside a mem_cons_self ha)
        refine ⟨.snoc hall.closed hfresh hall.mem, hall.keeps.trans (prefix_append _ _),
          by simp, ?_, ?_⟩
        · intro b hb
          obtain hb | hb := mem_append.mp hb
          · obtain hb | ⟨c, hc, hcb⟩ := hall.reached b hb
            · exact .inl hb
            · exact .inr (.head hc hcb)
          · obtain rfl := mem_singleton.mp hb
            exact .inr .refl
        · intro b hb hb'
          obtain hb' | hb' := mem_append.mp hb'
          · exact hall.aside b (mem_cons_of_mem a hb) hb'
          · obtain rfl := mem_singleton.mp hb'
            exact absurd hb hpath
    · obtain rfl : done ++ [a] = done' := by simpa using h
      refine ⟨.snoc hdone hmem (by simp [g.next_outside a hnode]), prefix_append _ _, by simp,
        ?_, ?_⟩
      · intro b hb
        obtain hb | hb := mem_append.mp hb
        · exact .inl hb
        · obtain rfl := mem_singleton.mp hb
          exact .inr .refl
      · intro b hb hb'
        obtain hb' | hb' := mem_append.mp hb'
        · exact hb'
        · obtain rfl := mem_singleton.mp hb'
          exact absurd hb hpath

lemma visit_error {c : α} (hway : ∀ b ∈ path, TransGen g.Next b a)
    (h : g.visit path a done = .error c) : ReflTransGen g.Next a c ∧ TransGen g.Next c c := by
  induction hfree : g.free path using Nat.strongRecOn generalizing path a done with
  | _ n ih =>
    rw [Graph.visit] at h
    split_ifs at h with hmem hpath hnode
    · obtain rfl : a = c := by simpa using h
      exact ⟨.refl, hway a hpath⟩
    · split at h
      · rename_i b hb
        obtain rfl : b = c := by simpa using h
        obtain ⟨x, hx, done', hfail⟩ := exists_of_foldlM_error hb
        have hxway : ∀ y ∈ a :: path, TransGen g.Next y x := by
          intro y hy
          obtain rfl | hy := mem_cons.mp hy
          · exact .single hx
          · exact (hway y hy).tail hx
        obtain ⟨hreach, hcycle⟩ := ih _ (hfree ▸ g.free_cons_lt hnode hpath) hxway hfail rfl
        exact ⟨.head hx hreach, hcycle⟩
      · cases h

/-- **A sort that succeeds lists what can be reached, each node behind all it leads to.** -/
lemma sort_ok {order : List α} (h : g.sort roots = .ok order) :
    Closed g order ∧ ∀ b, b ∈ order ↔ ∃ a ∈ roots, ReflTransGen g.Next a b := by
  have hadds : AddsAll g [] roots [] order :=
    addsAll_of_adds (fun a done done' hdone hvisit => visit_ok hdone hvisit) .nil h
  refine ⟨hadds.closed, fun b => ⟨fun hb => ?_, ?_⟩⟩
  · exact (hadds.reached b hb).resolve_left not_mem_nil
  · rintro ⟨a, ha, hab⟩
    have hmem := hadds.mem a ha
    obtain rfl | hab := reflTransGen_iff_eq_or_transGen.mp hab
    · exact hmem
    · exact (hadds.closed.before hmem hab).subset mem_cons_self

/-- **A sort fails exactly on a cycle.** -/
lemma sort_error_iff : (∃ c, g.sort roots = .error c) ↔ g.Cyclic roots := by
  constructor
  · rintro ⟨c, h⟩
    obtain ⟨a, ha, done, hvisit⟩ := exists_of_foldlM_error h
    exact ⟨a, ha, c, visit_error (by simp) hvisit⟩
  · rintro ⟨a, ha, c, hac, hcycle⟩
    cases h : g.sort roots with
    | error b => exact ⟨b, rfl⟩
    | ok order =>
      obtain ⟨hclosed, hmem⟩ := sort_ok h
      exact absurd hcycle (hclosed.acyclic ((hmem c).mpr ⟨a, ha, hac⟩))

end Search

end Dripline.Found.Postorder
