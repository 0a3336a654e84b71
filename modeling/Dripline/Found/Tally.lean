import Mathlib.Algebra.BigOperators.Group.List.Basic

/-!
# Amounts that are added up by key

A table has a row for each key, to which amounts are added one after another.

* `add`, `amountOf` — the row of a key is added to, or inserted; the amount in it.
-/

namespace Dripline.Found.Tally

variable {κ M : Type*} [AddCommMonoid M]

/-- The amounts of all keys of a kind. -/
def total (kind : κ → Bool) (rows : List (κ × M)) : M :=
  ((rows.filter (kind ·.1)).map Prod.snd).sum

@[simp] lemma total_nil (kind : κ → Bool) : total kind ([] : List (κ × M)) = 0 := rfl

lemma total_cons (kind : κ → Bool) (row : κ × M) (rows : List (κ × M)) :
    total kind (row :: rows) = (if kind row.1 then row.2 else 0) + total kind rows := by
  unfold total
  cases h : kind row.1 <;> simp [h]

lemma total_append (kind : κ → Bool) (rows rows' : List (κ × M)) :
    total kind (rows ++ rows') = total kind rows + total kind rows' := by
  unfold total
  rw [List.filter_append, List.map_append, List.sum_append]

lemma total_filter {keep kind : κ → Bool} (hkeep : ∀ key, kind key = true → keep key = true)
    (rows : List (κ × M)) : total kind (rows.filter (keep ·.1)) = total kind rows := by
  unfold total
  rw [List.filter_filter]
  congr 2
  refine List.filter_congr fun row _ => ?_
  cases hkind : kind row.1 with
  | true => rw [hkeep _ hkind, Bool.and_self]
  | false => rfl

variable [DecidableEq κ]

/-- An amount is added to the row of its key, which is inserted when it is not there. -/
def add (key : κ) (amount : M) : List (κ × M) → List (κ × M)
  | [] => [(key, amount)]
  | row :: rows => if row.1 = key then (key, row.2 + amount) :: rows else row :: add key amount rows

/-- The amount in the row of a key. -/
def amountOf (key : κ) (rows : List (κ × M)) : M :=
  ((rows.find? (·.1 = key)).map Prod.snd).getD 0

@[simp] lemma amountOf_nil (key : κ) : amountOf key ([] : List (κ × M)) = 0 := rfl

lemma amountOf_cons (key : κ) (row : κ × M) (rows : List (κ × M)) :
    amountOf key (row :: rows) = if row.1 = key then row.2 else amountOf key rows := by
  unfold amountOf
  by_cases h : row.1 = key <;> simp [h]

lemma amountOf_add (key key' : κ) (amount : M) (rows : List (κ × M)) :
    amountOf key' (add key amount rows) =
      amountOf key' rows + if key = key' then amount else 0 := by
  induction rows with
  | nil => simp [add, amountOf_cons]
  | cons row rows ih =>
    rw [add]
    split
    case isTrue hrow =>
      rw [amountOf_cons, amountOf_cons, hrow]
      split <;> simp
    case isFalse hrow =>
      rw [amountOf_cons, amountOf_cons, ih]
      split
      case isTrue h => rw [if_neg fun heq => hrow (h.trans heq.symm), add_zero]
      case isFalse h => rfl

lemma total_add (kind : κ → Bool) (key : κ) (amount : M) (rows : List (κ × M)) :
    total kind (add key amount rows) = total kind rows + if kind key then amount else 0 := by
  induction rows with
  | nil => rw [add, total_cons, total_nil, zero_add, add_zero]
  | cons row rows ih =>
    rw [add]
    split
    case isTrue hrow =>
      rw [total_cons, total_cons, hrow]
      split
      · rw [add_right_comm]
      · rw [add_zero]
    case isFalse hrow => rw [total_cons, total_cons, ih, add_assoc]

lemma amountOf_filter {keep : κ → Bool} {key : κ} (hkeep : keep key = true) (rows : List (κ × M)) :
    amountOf key (rows.filter (keep ·.1)) = amountOf key rows := by
  induction rows with
  | nil => rfl
  | cons row rows ih =>
    rw [List.filter_cons]
    split
    case isTrue hrow => rw [amountOf_cons, amountOf_cons, ih]
    case isFalse hrow =>
      have hne : row.1 ≠ key := fun heq => hrow (heq ▸ hkeep)
      rw [ih, amountOf_cons, if_neg hne]

/-- A table holds, of some keys, what a log says. -/
structure Books (among : κ → Prop) (rows log : List (κ × M)) : Prop where
  amountOf : ∀ key, among key →
    Tally.amountOf key rows = total (fun key' => decide (key' = key)) log
  total : ∀ kind, (∀ key, kind key = true → among key) → Tally.total kind rows = Tally.total kind log

namespace Books

variable {among : κ → Prop} {rows log : List (κ × M)}

lemma nil : Books among ([] : List (κ × M)) [] := ⟨fun _ _ => rfl, fun _ _ => rfl⟩

/-- **What is added is logged**: the table then holds what the longer log says. -/
lemma add (h : Books among rows log) (key : κ) (amount : M) :
    Books among (Tally.add key amount rows) (log ++ [(key, amount)]) := by
  refine ⟨fun key' hamong => ?_, fun kind hamong => ?_⟩
  · rw [amountOf_add, h.amountOf key' hamong, total_append, total_cons, total_nil, add_zero]
    simp only [decide_eq_true_eq]
  · rw [total_add, h.total kind hamong, total_append, total_cons, total_nil, add_zero]

lemma add_other (h : Books among rows log) {key : κ} (hother : ¬among key) (amount : M) :
    Books among (Tally.add key amount rows) log := by
  refine ⟨fun key' hamong => ?_, fun kind hamong => ?_⟩
  · have hne : key ≠ key' := fun heq => hother (heq ▸ hamong)
    rw [amountOf_add, if_neg hne, add_zero, h.amountOf key' hamong]
  · rw [total_add, if_neg fun hkind => hother (hamong key hkind), add_zero, h.total kind hamong]

lemma filter (h : Books among rows log) {keep : κ → Bool}
    (hkeep : ∀ key, among key → keep key = true) : Books among (rows.filter (keep ·.1)) log := by
  refine ⟨fun key hamong => ?_, fun kind hamong => ?_⟩
  · rw [amountOf_filter (hkeep key hamong), h.amountOf key hamong]
  · rw [total_filter fun key hkind => hkeep key (hamong key hkind), h.total kind hamong]

end Books

end Dripline.Found.Tally
