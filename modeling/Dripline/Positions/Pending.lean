import Dripline.Found.Keyed
import Dripline.Positions.Outcome

/-!
# Partial exits that are pending

`positions/state_pending.rs`: a mint is marked while a partial exit of it is in flight, and the
details of each are kept by signature, in memory and in the metadata.

A source without a file is in `state_pending.rs`.
-/

namespace Dripline.Positions

open Dripline.Found.Keyed List

/-! ## Marks and details -/

/-- Source: `positions/types.rs` -/
structure PendingPartialExit where
  signature : String
  mint : String
  positionId : ℤ
  expectedExitAmount : ℕ
  requestedExitPercentage : ℚ
  expiryHeight : Option ℕ
  createdAt : DateTime
  deriving DecidableEq

/-- `u32::saturating_add(1)`. -/
def saturatingSucc32 (n : ℕ) : ℕ := min (n + 1) (2 ^ 32 - 1)

/-- The marks of each mint, the details by signature, and what the metadata holds; no mark is no
entry. Source: `PENDING_PARTIAL_EXITS` and `PENDING_PARTIAL_EXIT_DETAILS` -/
structure PendingExits where
  marks : String → ℕ
  details : List PendingPartialExit
  stored : List PendingPartialExit

namespace PendingExits

variable (pending : PendingExits)

/-- Source: `is_partial_exit_pending` -/
def isPending (mint : String) : Bool := decide (0 < pending.marks mint)

/-- Source: `mark_partial_exit_pending` -/
def mark (mint : String) : PendingExits :=
  { pending with
    marks := Function.update pending.marks mint (saturatingSucc32 (pending.marks mint)) }

/-- Source: `clear_partial_exit_pending` -/
def clearMark (mint : String) : PendingExits :=
  { pending with marks := Function.update pending.marks mint (pending.marks mint - 1) }

/-- The details of a signature are taken out. -/
def remove (signature : String) : PendingExits :=
  { pending with details := pending.details.filter (·.signature != signature) }

/-- The details of a signature are put in, in place of those it had. -/
def insert (entry : PendingPartialExit) : PendingExits :=
  { pending with details := (pending.remove entry.signature).details ++ [entry] }

variable (written : Except String Unit)

/-- Source: `persist_pending_partial_exits` -/
def persist : PendingExits × Except String Unit :=
  match written with
  | .ok _ => ({ pending with stored := pending.details }, .ok ())
  | .error detail => (pending, .error detail)

/-- Source: `register_pending_partial_exit` -/
def register (entry : PendingPartialExit) :
    PendingExits × Except String Unit :=
  match (pending.insert entry).persist written with
  | (pending, .ok _) => (pending, .ok ())
  | (pending, .error detail) => (pending.remove entry.signature, .error detail)

/-- Source: `clear_pending_partial_exit` -/
def clearDetail (signature : String) :
    PendingExits × Except String Unit :=
  match pending.details.find? (·.signature == signature) with
  | none => (pending, .ok ())
  | some entry =>
    match (pending.remove signature).persist written with
    | (pending, .ok _) => (pending, .ok ())
    | (pending, .error detail) => (pending.insert entry, .error detail)

/-- Source: `clear_pending_partial_exits_for_mint` -/
def clearForMint (mint : String) :
    PendingExits × Except String Unit :=
  let removed := pending.details.filter (·.mint == mint)
  let pending : PendingExits :=
    { pending with
      marks := Function.update pending.marks mint 0
      details := pending.details.filter (·.mint != mint) }
  if removed.isEmpty then (pending, .ok ()) else pending.persist written

/-- The memory of a process that has just started. -/
def forgotten : PendingExits := { pending with marks := fun _ => 0, details := [] }

/-- The stored details are loaded, and a mark is counted for each. Source:
`rehydrate_pending_partial_exits` -/
def rehydrate (loaded : Except String Unit) : PendingExits :=
  match loaded with
  | .error _ => pending
  | .ok _ => pending.stored.foldl (fun pending entry => (pending.insert entry).mark entry.mint)
      pending.forgotten

/-! ### Transitions -/

variable (answers : Answers)

/-- A verified partial exit: the details and the mark are dropped, also when it is recorded already.
Source: `apply.rs`, `PartialExitVerified` -/
def sold (store : Store) (positionId : ℤ) (signature : String) :
    PendingExits × Bool :=
  match store.get positionId with
  | none => (pending, true)
  | some row =>
    if answers.exitLookup && store.exitRecordExists positionId signature then
      ((pending.clearDetail answers.pendingWrite signature).1.clearMark row.mint, true)
    else
      match answers.rowWrite with
      | .error _ => (pending, false)
      | .ok _ =>
        match pending.clearDetail answers.pendingWrite signature with
        | (pending, .error _) => (pending, false)
        | (pending, .ok _) => (pending.clearMark row.mint, true)

/-- A failed partial exit: everything of the mint is dropped. Source: `apply.rs`,
`PartialExitFailed` -/
def failed (store : Store) (positionId : ℤ) : PendingExits :=
  match store.get positionId with
  | none => pending
  | some row => (pending.clearForMint answers.pendingWrite row.mint).1.clearMark row.mint

/-- What a transition does to the partial exits in flight; a residual exit is a partial exit first.
Source: `apply.rs`, `apply_transition` -/
def apply (store : Store) : PositionTransition → PendingExits × Bool
  | .partialExitVerified id _ _ _ _ _ signature _
  | .exitResidualClearForRetry id _ _ _ _ _ signature _ => pending.sold answers store id signature
  | .partialExitFailed id _ => (pending.failed answers store id, true)
  | _ => (pending, true)

/-! ### Details by signature -/

section details

variable {pending} {entry : PendingPartialExit}

lemma clearMark_of_zero {mint : String} (hzero : pending.marks mint = 0) :
    pending.clearMark mint = pending := by
  have hsame : Function.update pending.marks mint (pending.marks mint - 1) = pending.marks := by
    funext other
    by_cases hother : other = mint
    · rw [hother, Function.update_self, hzero]
    · rw [Function.update_of_ne hother]
  unfold clearMark
  rw [hsame]

lemma remove_of_fresh {signature : String}
    (hfresh : ∀ registered ∈ pending.details, registered.signature ≠ signature) :
    pending.remove signature = pending := by
  have hsame : pending.details.filter (·.signature != signature) = pending.details :=
    filter_eq_self.mpr fun registered hmem => by simpa using hfresh registered hmem
  unfold remove
  rw [hsame]

lemma insert_of_fresh
    (hfresh : ∀ registered ∈ pending.details, registered.signature ≠ entry.signature) :
    pending.insert entry = { pending with details := pending.details ++ [entry] } := by
  unfold insert
  rw [remove_of_fresh hfresh]

lemma fresh_remove (signature : String) :
    ∀ registered ∈ (pending.remove signature).details, registered.signature ≠ signature := by
  intro registered hmem
  simpa using (mem_filter.mp hmem).2

variable (written : Except String Unit)

lemma register_of_fresh
    (hfresh : ∀ registered ∈ pending.details, registered.signature ≠ entry.signature) :
    pending.register written entry =
      match written with
      | .ok _ => (⟨pending.marks, pending.details ++ [entry], pending.details ++ [entry]⟩, .ok ())
      | .error detail => (pending, .error detail) := by
  unfold register
  rw [insert_of_fresh hfresh]
  cases written with
  | ok _ => rfl
  | error detail =>
    have hremoved : (pending.details ++ [entry]).filter (·.signature != entry.signature) =
        pending.details := by
      rw [filter_append, filter_cons_of_neg (by simp), filter_nil,
        append_nil]
      exact congrArg PendingExits.details (remove_of_fresh hfresh)
    unfold persist remove
    dsimp only
    rw [hremoved]

lemma clearDetail_of_fresh {signature : String}
    (hfresh : ∀ registered ∈ pending.details, registered.signature ≠ signature) :
    pending.clearDetail written signature = (pending, .ok ()) := by
  have hnone : pending.details.find? (·.signature == signature) = none :=
    List.find?_eq_none.mpr fun registered hmem => by simpa using hfresh registered hmem
  unfold clearDetail
  rw [hnone]

lemma clearDetail_of_mem (hdistinct : (pending.details.map (·.signature)).Nodup)
    (hentry : entry ∈ pending.details) :
    pending.clearDetail written entry.signature =
      match written with
      | .ok _ => ({ pending.remove entry.signature with
          stored := (pending.remove entry.signature).details }, .ok ())
      | .error detail => ({ pending.remove entry.signature with
          details := (pending.remove entry.signature).details ++ [entry] }, .error detail) := by
  have hfind : pending.details.find? (·.signature == entry.signature) = some entry := by
    have hsome := hdistinct.map (Option.some_injective String)
    rw [map_map] at hsome
    have hkeys : (pending.details.filterMap fun entry => some entry.signature).Nodup :=
      nodup_filterMap_of_map hsome
    simpa using find?_key hkeys hentry rfl
  unfold clearDetail
  rw [hfind]
  cases written with
  | ok _ => rfl
  | error detail =>
    dsimp only [persist]
    rw [insert_of_fresh (fresh_remove entry.signature)]

lemma clearForMint_eq (mint : String) :
    ∃ stored, (stored = pending.stored ∨ stored = pending.details.filter (·.mint != mint)) ∧
      (pending.clearForMint written mint).1 =
        ⟨Function.update pending.marks mint 0, pending.details.filter (·.mint != mint), stored⟩ := by
  unfold clearForMint
  dsimp only
  split
  · exact ⟨_, Or.inl rfl, rfl⟩
  · cases written with
    | ok _ => exact ⟨_, Or.inr rfl, rfl⟩
    | error detail => exact ⟨_, Or.inl rfl, rfl⟩

lemma foldl_insert_mark (entries : List PendingPartialExit) (pending : PendingExits)
    (hdistinct : ((pending.details ++ entries).map (·.signature)).Nodup) :
    let after := entries.foldl (fun pending entry => (pending.insert entry).mark entry.mint) pending
    after.details = pending.details ++ entries ∧ after.stored = pending.stored ∧
      ((∀ mint, pending.marks mint = pending.details.countP (·.mint == mint)) →
        (pending.details ++ entries).length < 2 ^ 32 →
        ∀ mint, after.marks mint = (pending.details ++ entries).countP (·.mint == mint)) := by
  induction entries generalizing pending with
  | nil => exact ⟨(append_nil _).symm, rfl, fun hmarks _ mint => by simpa using hmarks mint⟩
  | cons entry entries ih =>
    have hfresh : ∀ registered ∈ pending.details, registered.signature ≠ entry.signature := by
      intro registered hregistered
      rw [map_append, nodup_append] at hdistinct
      exact hdistinct.2.2 _ (mem_map_of_mem hregistered) _
        (mem_map_of_mem mem_cons_self)
    have happend : pending.details ++ entry :: entries = (pending.details ++ [entry]) ++ entries :=
      append_cons _ _ _
    rw [happend] at hdistinct ⊢
    rw [foldl_cons, insert_of_fresh hfresh]
    refine (ih _ hdistinct).imp_right (And.imp_right fun hafter hmarks hlength =>
      hafter (fun mint => ?_) hlength)
    have hmark := hmarks mint
    simp only [mark]
    rw [countP_append, countP_singleton]
    by_cases hmint : mint = entry.mint
    · subst hmint
      have hle := @countP_le_length _ (·.mint == entry.mint) pending.details
      rw [append_assoc, length_append, length_append, length_singleton]
        at hlength
      simp only [Function.update_self, beq_self_eq_true, if_true, saturatingSucc32]
      omega
    · rw [Function.update_of_ne hmint, if_neg (by simpa using Ne.symm hmint), hmark]
      rfl

lemma rehydrate_eq (hdistinct : (pending.stored.map (·.signature)).Nodup)
    (hlength : pending.stored.length < 2 ^ 32) :
    (pending.forgotten.rehydrate (.ok ())).details = pending.stored ∧
      (∀ mint, (pending.forgotten.rehydrate (.ok ())).marks mint =
        pending.stored.countP (·.mint == mint)) ∧
      (pending.forgotten.rehydrate (.ok ())).stored = pending.stored :=
  have ⟨hdetails, hstored, hmarks⟩ :=
    foldl_insert_mark pending.stored pending.forgotten.forgotten hdistinct
  ⟨hdetails, hmarks (fun _ => rfl) hlength, hstored⟩

end details

end PendingExits

end Dripline.Positions
