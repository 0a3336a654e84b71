import Mathlib.Data.List.Induction
import Mathlib.Data.List.Nodup

/-!
# A map that is written behind its edits

Entries are kept in memory by key. Each operation edits the map, takes an order of the entries, and
writes that order as a whole; when the write fails, it takes its edit back. Operations interleave.

* `Registry`, `Registry.step` — the map, what was written last, and the operations under way.
-/

namespace Dripline.Found.WriteBehind

open List

/-! ## The map -/

section map

variable {α κ : Type*} [DecidableEq κ] (key : α → κ)

/-- The entry of a key is taken out. -/
def drop (k : κ) (entries : List α) : List α := entries.filter (key · ≠ k)

/-- An entry is put in, in place of the one of its key. -/
def put (entry : α) (entries : List α) : List α := drop key (key entry) entries ++ [entry]

/-- Entries are put in one after another. -/
def load (entries : List α) : List α := entries.foldl (fun loaded entry => put key entry loaded) []

/-- The entry of a key. -/
def lookup (entries : List α) (k : κ) : Option α := entries.find? (key · = k)

variable {key} {entries : List α}

lemma nodup_drop (h : (entries.map key).Nodup) (k : κ) : ((drop key k entries).map key).Nodup :=
  h.sublist (filter_sublist.map key)

lemma nodup_put (h : (entries.map key).Nodup) (entry : α) :
    ((put key entry entries).map key).Nodup := by
  unfold put
  rw [map_append, map_singleton, nodup_append]
  refine ⟨nodup_drop h _, nodup_singleton _, ?_⟩
  intro k hk k' hk'
  obtain ⟨kept, hkept, rfl⟩ := mem_map.mp hk
  rw [mem_singleton.mp hk']
  simpa [drop] using (mem_filter.mp hkept).2

lemma put_of_fresh {entry : α} (h : key entry ∉ entries.map key) :
    put key entry entries = entries ++ [entry] := by
  have hsame : drop key (key entry) entries = entries := by
    refine filter_eq_self.mpr fun kept hkept => ?_
    simpa using fun heq => h (mem_map.mpr ⟨kept, hkept, heq⟩)
  unfold put
  rw [hsame]

lemma load_of_nodup (h : (entries.map key).Nodup) : load key entries = entries := by
  induction entries using List.reverseRecOn with
  | nil => rfl
  | append_singleton entries entry ih =>
    rw [map_append, nodup_append] at h
    have hrest : entries.foldl (fun loaded entry => put key entry loaded) [] = entries := ih h.1
    unfold load
    rw [foldl_append, hrest, foldl_cons, foldl_nil]
    refine put_of_fresh fun hmem => ?_
    exact h.2.2 _ hmem _ (by simp) rfl

lemma nodup_load (entries : List α) : ((load key entries).map key).Nodup := by
  induction entries using List.reverseRecOn with
  | nil => exact nodup_nil
  | append_singleton entries entry ih =>
    unfold load
    rw [foldl_append, foldl_cons, foldl_nil]
    exact nodup_put ih entry

lemma lookup_perm {entries' : List α} (h : (entries.map key).Nodup) (hperm : entries.Perm entries')
    (k : κ) : lookup key entries k = lookup key entries' k := by
  have hmem : ∀ {l : List α} {entry}, (l.map key).Nodup → entry ∈ l → key entry = k →
      lookup key l k = some entry := by
    intro l entry hl hentry hk
    unfold lookup
    cases hfind : l.find? (key · = k) with
    | none => exact absurd hk (by simpa using List.find?_eq_none.mp hfind entry hentry)
    | some found =>
      have hfound : key found = k := by simpa using List.find?_some hfind
      rw [inj_on_of_nodup_map hl (mem_of_find?_eq_some hfind) hentry
        (hfound.trans hk.symm)]
  have h' : (entries'.map key).Nodup := (hperm.map key).nodup_iff.mp h
  cases hfind : lookup key entries k with
  | some entry =>
    have hk : key entry = k := by simpa using List.find?_some hfind
    exact (hmem h' (hperm.mem_iff.mp (mem_of_find?_eq_some hfind)) hk).symm
  | none =>
    refine (List.find?_eq_none.mpr fun entry hentry => ?_).symm
    exact List.find?_eq_none.mp hfind entry (hperm.mem_iff.mpr hentry)

end map

/-! ## Operations -/

/-- An entry is put in; that of a key is taken out; those that satisfy a test are. -/
inductive Edit (α κ : Type*)
  | put (entry : α)
  | drop (k : κ)
  | dropWhere (test : α → Bool)

/-- What takes an edit back: the key is taken out again, or the entry put in again; some edits are
not taken back. -/
inductive Undo (α κ : Type*)
  | drop (k : κ)
  | put (entry : α)
  | nothing

/-- The map was edited; an order of it was taken; the write has failed. -/
inductive Stage (α κ : Type*)
  | edited (undo : Undo α κ)
  | taken (order : List α) (undo : Undo α κ)
  | failed (undo : Undo α κ)

/-- The operation has still to write. -/
def Stage.owes {α κ : Type*} : Stage α κ → Bool
  | .edited _ | .taken .. => true
  | .failed _ => false

/-- The entries in memory, what was written last, whether the last write went through, and how far
the operation of each task is. -/
structure Registry (τ α κ : Type*) where
  memory : List α
  stored : Option (List α)
  written : Option Bool
  stages : τ → Option (Stage α κ)

/-- A task begins an operation; it takes an order of the entries; it writes that; it takes its edit
back. -/
inductive Event (τ α κ : Type*)
  | begun (task : τ) (edit : Edit α κ)
  | taken (task : τ) (order : List α)
  | wrote (task : τ) (ok : Bool)
  | undone (task : τ)

namespace Registry

variable {τ α κ : Type*} (key : α → κ) (registry : Registry τ α κ)

/-- All operations have returned. -/
def Idle : Prop := ∀ task, registry.stages task = none

/-- What was written last is the map. -/
def Matches : Prop :=
  ∃ order, registry.stored = some order ∧ order.Perm registry.memory

/-- An operation other than that of the task has still to write. -/
def OtherOwes (task : τ) : Prop :=
  ∃ other stage, other ≠ task ∧ registry.stages other = some stage ∧ stage.owes = true

/-- When no other operation has still to write, what is written is the map as it is, and nothing is
taken back after a write that went through. -/
def Fresh (registry : Registry τ α κ) : Event τ α κ → Prop
  | .wrote task true =>
    ∀ order undo, registry.stages task = some (.taken order undo) →
      order.Perm registry.memory ∨ registry.OtherOwes task
  | .undone task =>
    ∀ undo, registry.stages task = some (.failed undo) →
      registry.written ≠ some true ∨ registry.OtherOwes task
  | _ => True

/-- Keys are distinct, and after a write that went through the map is what was written, or an
operation has still to write. -/
structure Sound : Prop where
  distinct : (registry.memory.map key).Nodup
  behind : registry.written = some true → registry.Matches ∨
    ∃ task stage, registry.stages task = some stage ∧ stage.owes = true

variable {registry} in
lemma Sound.matches (h : registry.Sound key) (hidle : registry.Idle)
    (hwritten : registry.written = some true) : registry.Matches := by
  rcases h.behind hwritten with hmatches | ⟨task, stage, hstage, -⟩
  · exact hmatches
  · rw [hidle task] at hstage
    cases hstage

lemma sound_loaded (entries : List α) (h : (entries.map key).Nodup) (stored : Option (List α)) :
    (⟨entries, stored, none, fun _ => none⟩ : Registry τ α κ).Sound key :=
  ⟨h, fun hwritten => by cases hwritten⟩

/-! ### Events -/

variable [DecidableEq τ]

/-- The operation of a task has come to a stage, or has returned. -/
def reach (task : τ) (stage : Option (Stage α κ)) : Registry τ α κ :=
  { registry with stages := Function.update registry.stages task stage }

variable [DecidableEq κ]

/-- The map is edited; an operation that finds nothing to take out returns. -/
def edit (task : τ) : Edit α κ → Registry τ α κ
  | .put entry =>
    { registry with memory := WriteBehind.put key entry registry.memory }.reach task
      (some (.edited (.drop (key entry))))
  | .drop k =>
    match lookup key registry.memory k with
    | some entry =>
      { registry with memory := WriteBehind.drop key k registry.memory }.reach task
        (some (.edited (.put entry)))
    | none => registry
  | .dropWhere test =>
    if registry.memory.any test then
      { registry with memory := registry.memory.filter (!test ·) }.reach task
        (some (.edited .nothing))
    else registry

/-- An edit is taken back. -/
def undo : Undo α κ → Registry τ α κ
  | .drop k => { registry with memory := WriteBehind.drop key k registry.memory }
  | .put entry => { registry with memory := WriteBehind.put key entry registry.memory }
  | .nothing => registry

/-- One event. -/
def step [DecidableEq α] (registry : Registry τ α κ) : Event τ α κ → Registry τ α κ
  | .begun task edit =>
    match registry.stages task with
    | none => registry.edit key task edit
    | some _ => registry
  | .taken task order =>
    match registry.stages task with
    | some (.edited undo) =>
      if order.Perm registry.memory then registry.reach task (some (.taken order undo))
      else registry
    | _ => registry
  | .wrote task ok =>
    match registry.stages task, ok with
    | some (.taken order _), true =>
      { registry with stored := some order, written := some true }.reach task none
    | some (.taken _ undo), false =>
      { registry with written := some false }.reach task (some (.failed undo))
    | _, _ => registry
  | .undone task =>
    match registry.stages task with
    | some (.failed undo) => (registry.undo key undo).reach task none
    | _ => registry

variable {key registry}

omit [DecidableEq κ] in
lemma OtherOwes.reach {task : τ} (h : registry.OtherOwes task) :
    ∃ other stage, (registry.reach task none).stages other = some stage ∧ stage.owes = true := by
  obtain ⟨other, stage, hother, hstage, howes⟩ := h
  exact ⟨other, stage, (Function.update_of_ne hother ..).trans hstage, howes⟩

omit [DecidableEq κ] in
lemma Sound.reach (h : (registry.memory.map key).Nodup) (task : τ) {stage : Stage α κ}
    (howes : stage.owes = true) : (registry.reach task (some stage)).Sound key :=
  ⟨h, fun _ => Or.inr ⟨task, stage, Function.update_self .., howes⟩⟩

lemma Sound.edit (h : registry.Sound key) (task : τ) (edit : Edit α κ) :
    (registry.edit key task edit).Sound key := by
  cases edit with
  | put entry => exact Sound.reach (nodup_put h.distinct entry) task rfl
  | drop k =>
    unfold Registry.edit
    dsimp only
    split
    · exact Sound.reach (nodup_drop h.distinct k) task rfl
    · exact h
  | dropWhere test =>
    unfold Registry.edit
    dsimp only
    split
    · exact Sound.reach (h.distinct.sublist (filter_sublist.map key)) task rfl
    · exact h

omit [DecidableEq τ] in
lemma nodup_undo (h : (registry.memory.map key).Nodup) (undo : Undo α κ) :
    ((registry.undo key undo).memory.map key).Nodup := by
  cases undo with
  | drop k => exact nodup_drop h k
  | put entry => exact nodup_put h entry
  | nothing => exact h

omit [DecidableEq τ] in
lemma written_undo (undo : Undo α κ) : (registry.undo key undo).written = registry.written := by
  cases undo <;> rfl

omit [DecidableEq τ] in
lemma stages_undo (undo : Undo α κ) : (registry.undo key undo).stages = registry.stages := by
  cases undo <;> rfl

/-- **An event keeps what was written near the map**: an edit has to be written, and a write is of
the map as it is. -/
lemma Sound.step [DecidableEq α] (h : registry.Sound key) (event : Event τ α κ)
    (hfresh : registry.Fresh event) : (step key registry event).Sound key := by
  cases event with
  | begun task edit =>
    unfold Registry.step
    dsimp only
    split
    · exact h.edit task edit
    · exact h
  | taken task order =>
    unfold Registry.step
    dsimp only
    split
    · split
      · exact Sound.reach h.distinct task rfl
      · exact h
    · exact h
  | wrote task ok =>
    unfold Registry.step
    dsimp only
    split
    case h_1 _ _ order undo hstage =>
      refine ⟨h.distinct, fun _ => ?_⟩
      rcases hfresh order undo hstage with hperm | howes
      · exact Or.inl ⟨order, rfl, hperm⟩
      · exact Or.inr howes.reach
    case h_2 => exact ⟨h.distinct, fun hwritten => by cases hwritten⟩
    case h_3 => exact h
  | undone task =>
    unfold Registry.step
    dsimp only
    split
    case h_1 undo hstage =>
      refine ⟨nodup_undo h.distinct undo, fun hwritten => ?_⟩
      have hsame : ((registry.undo key undo).reach task none).written = registry.written :=
        written_undo undo
      rcases hfresh undo hstage with hnot | howes
      · exact absurd (hsame.symm.trans hwritten) hnot
      · refine Or.inr ?_
        obtain ⟨other, stage, hother⟩ := howes.reach
        exact ⟨other, stage, by simpa [Registry.reach, stages_undo] using hother⟩
    case h_2 => exact h

end Registry

end Dripline.Found.WriteBehind
