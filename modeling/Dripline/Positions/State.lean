import Mathlib.Data.Finset.Card
import Dripline.Positions.Apply

/-!
# The positions in memory

`positions/state.rs` around the rows: the signature and mint indexes, and the trading slots, with
what a transition does to them. A hash map is the function that looks a key up.

* `Slots` — the permits of the semaphore and the positions that hold one.
* `State` — the rows and records, the two indexes, and the slots.
* `addPosition`, `removePosition`, `removePositionById` — the rows and their indexes.

A source without a file is in `state.rs`, where a definition without a comment is the one
of its name.
-/

namespace Dripline.Positions

/-! ## Slots -/

/-- The free permits, and the positions that hold a slot. Source: `GLOBAL_POSITION_SEMAPHORE` and `SLOT_HOLDERS` -/
structure Slots where
  available : ℕ
  holders : Finset ℤ

namespace Slots

variable (slots : Slots)

/-- Source: `acquire_global_position_permit` and `try_consume_global_position_permit` -/
def tryAcquire : Option Slots :=
  if 0 < slots.available then some { slots with available := slots.available - 1 } else none

/-- Source: `release_global_position_permit` -/
def releasePermit : Slots := { slots with available := slots.available + 1 }

/-- Source: `register_position_slot` -/
def register (positionId : ℤ) : Slots := { slots with holders := insert positionId slots.holders }

/-- A slot is freed at most once. Source: `release_position_slot` -/
def release (positionId : ℤ) : Slots :=
  if positionId ∈ slots.holders then
    releasePermit { slots with holders := slots.holders.erase positionId }
  else slots

/-- As many permits as there are open positions are taken, while there are any. Source: `state.rs`,
the last loop of `reconcile_global_position_semaphore` -/
def consume : ℕ → Slots → Slots
  | 0, slots => slots
  | n + 1, slots =>
    match slots.tryAcquire with
    | some slots => consume n slots
    | none => slots

/-- Permits that no open position accounts for are released; otherwise one is taken for each open
position. Source: `reconcile_global_position_semaphore` -/
def reconcile (maxOpen openCount : ℕ) : Slots :=
  let consumedBefore := wrappingSub64 maxOpen slots.available
  if openCount < consumedBefore then
    Nat.iterate releasePermit (consumedBefore - openCount) slots
  else if openCount = 0 then slots
  else consume openCount slots

lemma iterate_releasePermit (n : ℕ) :
    Nat.iterate releasePermit n slots = { slots with available := slots.available + n } := by
  induction n generalizing slots with
  | zero => rfl
  | succ n ih =>
    rw [Function.iterate_succ_apply, ih]
    simp only [releasePermit, mk.injEq, and_true]
    omega

lemma consume_eq (n : ℕ) : consume n slots = { slots with available := slots.available - n } := by
  induction n generalizing slots with
  | zero => rfl
  | succ n ih =>
    unfold consume tryAcquire
    by_cases havailable : 0 < slots.available
    · rw [if_pos havailable]
      dsimp only
      rw [ih]
      simp only [mk.injEq, and_true]
      omega
    · rw [if_neg havailable]
      obtain ⟨available, holders⟩ := slots
      simp only [mk.injEq, and_true] at havailable ⊢
      omega

lemma reconcile_eq {maxOpen : ℕ} (hmax : maxOpen < 2 ^ 64) (havailable : slots.available ≤ maxOpen)
    (openCount : ℕ) :
    slots.reconcile maxOpen openCount =
      { slots with available :=
          if openCount + slots.available < maxOpen then maxOpen - openCount
          else slots.available - openCount } := by
  have hconsumed : wrappingSub64 maxOpen slots.available = maxOpen - slots.available := by
    unfold wrappingSub64
    omega
  unfold reconcile
  simp only [hconsumed, iterate_releasePermit, consume_eq]
  by_cases hleaked : openCount + slots.available < maxOpen
  · rw [if_pos (by omega), if_pos hleaked]
    simp only [mk.injEq, and_true]
    omega
  · rw [if_neg (by omega), if_neg hleaked]
    split
    case isTrue hzero => simp [hzero]
    case isFalse hzero => rfl

end Slots

/-! ## The state -/

/-- The rows and records, the mint of each signature, the place of each mint, and the slots. Source:
`POSITIONS`, `SIG_TO_MINT_INDEX` and `MINT_TO_POSITION_INDEX` -/
structure State where
  store : Store
  sigToMint : String → Option String
  mintToPosition : String → Option ℕ
  slots : Slots

variable (position : Position)

/-- The entry and exit signatures of a row. -/
def Position.signatures : List String :=
  position.entryTransactionSignature.toList ++ position.exitTransactionSignature.toList

/-- A close in flight: its signature, the price it was decided at, and why. Source:
`operations/close.rs`, `close_position_direct` -/
def Position.exitStamped (signature : String) (exitPrice : ℚ) (exitReason : String) : Position :=
  { position with
    exitTransactionSignature := some signature
    exitPrice := some exitPrice
    closedReason := some (exitReason ++ pendingVerificationSuffix) }

/-- A position that takes up trading capacity: open, and not derived from wallet history. Source:
`get_capacity_consuming_positions` -/
def Position.consumesCapacity : Bool :=
  position.isOpen && !position.isWalletDerived

/-- Source: `add_signature_to_index` -/
def indexSignature (index : String → Option String) (signature : Option String) (mint : String) :
    String → Option String :=
  match signature with
  | some signature => Function.update index signature (some mint)
  | none => index

/-- Source: `remove_signature_from_index` -/
def unindexSignature (index : String → Option String) (signature : Option String) :
    String → Option String :=
  match signature with
  | some signature => Function.update index signature none
  | none => index

/-- Every signature of a mint is dropped. -/
def removeAllSignaturesForMint (index : String → Option String) (mint : String) :
    String → Option String :=
  fun signature => (index signature).filter (· != mint)

def rebuildPositionIndexes (positions : List Position) : String → Option ℕ :=
  positions.zipIdx.foldl (fun index (position, i) => Function.update index position.mint (some i))
    fun _ => none

namespace State

/-- Nothing is loaded yet. -/
def empty (slots : Slots) : State where
  store := ⟨[], [], [], []⟩
  sigToMint := fun _ => none
  mintToPosition := fun _ => none
  slots := slots

variable (state : State)

def addPosition (position : Position) : State :=
  { state with
    store := { state.store with positions := state.store.positions ++ [position] }
    sigToMint :=
      indexSignature (indexSignature state.sigToMint position.entryTransactionSignature
        position.mint) position.exitTransactionSignature position.mint
    mintToPosition :=
      Function.update state.mintToPosition position.mint (some state.store.positions.length) }

/-- The first row that passes a test is removed, and with it every signature of its mint. Source:
`remove_position` and `remove_position_by_id` -/
def removeFirst (test : Position → Bool) : State :=
  match state.store.positions.find? test with
  | some removed =>
    let positions := state.store.positions.eraseP test
    { state with
      store := { state.store with positions := positions }
      sigToMint := removeAllSignaturesForMint state.sigToMint removed.mint
      mintToPosition := rebuildPositionIndexes positions }
  | none => state

def removePosition (mint : String) : State := state.removeFirst (·.mint == mint)

def removePositionById (positionId : ℤ) : State := state.removeFirst (Store.isRow positionId)

/-- The row was entered or left by this signature. -/
def carries (signature : String) (position : Position) : Bool :=
  position.entryTransactionSignature == some signature ||
    position.exitTransactionSignature == some signature

/-- The first row of a signature is removed, with its own signatures. Source: `helpers.rs`,
`remove_position_by_signature` -/
def removePositionBySignature (signature : String) : State :=
  match state.store.positions.find? (carries signature) with
  | some removed =>
    let positions := state.store.positions.eraseP (carries signature)
    { state with
      store := { state.store with positions := positions }
      sigToMint :=
        unindexSignature (unindexSignature state.sigToMint removed.entryTransactionSignature)
          removed.exitTransactionSignature
      mintToPosition := rebuildPositionIndexes positions }
  | none => state

/-- The mint index is computed anew. Source: `rebuild_position_indexes` -/
def rebuild : State :=
  { state with mintToPosition := rebuildPositionIndexes state.store.positions }

/-- The rows of the database are loaded, and their signatures and mints indexed. Source:
`worker.rs`, `initialize_positions_system` -/
def load (positions : List Position) : State :=
  { state with
    store := { state.store with positions := positions }
    sigToMint :=
      positions.foldl (fun index position =>
          indexSignature (indexSignature index position.entryTransactionSignature position.mint)
            position.exitTransactionSignature position.mint)
        fun _ => none
    mintToPosition := rebuildPositionIndexes positions }

/-- The positions that take up trading capacity. -/
def capacityConsuming : List Position := state.store.positions.filter (·.consumesCapacity)

/-! ## Transitions -/

/-- A transition that only touches rows and records. -/
def withApplied (applied : Applied) : State × Except ApplyError ApplyEffects :=
  ({ state with store := applied.1 }, applied.2)

/-- A close frees the slot once its row is written. Source: `apply.rs`, `ExitVerified` and
`ExitPermanentFailureSynthetic` -/
def withClosed (positionId : ℤ) (applied : Applied) : State × Except ApplyError ApplyEffects :=
  match applied with
  | (store, .ok effects) =>
    ({ state with
        store := store
        slots := if effects.positionClosed then state.slots.release positionId else state.slots },
      .ok effects)
  | (store, .error e) => ({ state with store := store }, .error e)

/-- The exit signature is dropped from the index. Source: `apply.rs`, `ExitFailedClearForRetry` -/
def applyExitFailedClearForRetry (answers : Answers) (positionId : ℤ) :
    State × Except ApplyError ApplyEffects :=
  let applied := Positions.applyExitFailedClearForRetry answers state.store positionId
  ({ state with
      store := applied.1
      sigToMint := unindexSignature state.sigToMint
        ((state.store.get positionId).bind (·.exitTransactionSignature)) },
    applied.2)

/-- The orphan is removed by its mint, and its slot is freed by its id. Source: `apply.rs`,
`RemoveOrphanEntry` -/
def applyRemoveOrphanEntry (positionId : ℤ) : State × Except ApplyError ApplyEffects :=
  match state.store.get positionId with
  | none => (state, .ok .none)
  | some position =>
    ({ state.removePosition position.mint with slots := state.slots.release positionId },
      .ok { ApplyEffects.none with positionRemoved := true })

/-- Apply a transition to the rows, their indexes and their slots. Source: `apply.rs`,
`apply_transition` -/
def apply (answers again : Answers) :
    PositionTransition → State × Except ApplyError ApplyEffects
  | .exitVerified id price received fee time =>
    state.withClosed id (applyExitVerified answers state.store id price received fee time)
  | .exitFailedClearForRetry id => state.applyExitFailedClearForRetry answers id
  | .exitPermanentFailureSynthetic id time =>
    state.withClosed id (applyExitSynthetic answers state.store id time)
  | .removeOrphanEntry id => state.applyRemoveOrphanEntry id
  | .exitResidualClearForRetry id amount received price fee time signature percentage =>
    match applyPartialExitVerified answers state.store id amount received price fee time signature
        percentage with
    | (store, .error e) => ({ state with store := store }, .error e)
    | (store, .ok _) =>
      match applyExitFailedClearForRetry { state with store := store } again id with
      | (state, .error e) => (state, .error e)
      | (state, .ok cleared) =>
        (state, .ok { ApplyEffects.none with dbUpdated := cleared.dbUpdated })
  | transition => state.withApplied (applyTransition answers again state.store transition)

lemma apply_removeOrphanEntry_of_none {positionId : ℤ} (answers again : Answers)
    (hrow : state.store.get positionId = none) :
    (state.apply answers again (.removeOrphanEntry positionId)).1 = state := by
  show (state.applyRemoveOrphanEntry positionId).1 = state
  rw [applyRemoveOrphanEntry, hrow]

lemma apply_removeOrphanEntry_of_some {positionId : ℤ} {row : Position} (answers again : Answers)
    (hrow : state.store.get positionId = some row) :
    (state.apply answers again (.removeOrphanEntry positionId)).1 =
      { state.removePosition row.mint with slots := state.slots.release positionId } := by
  show (state.applyRemoveOrphanEntry positionId).1 = _
  rw [applyRemoveOrphanEntry, hrow]

lemma apply_store (answers again : Answers) (transition : PositionTransition) :
    ((state.apply answers again transition).1.store, (state.apply answers again transition).2) =
      applyTransition answers again state.store transition := by
  have hclosed : ∀ (id : ℤ) (applied : Applied),
      ((state.withClosed id applied).1.store, (state.withClosed id applied).2) = applied := by
    rintro id ⟨store, effects | e⟩ <;> rfl
  cases transition with
  | exitVerified id price received fee time | exitPermanentFailureSynthetic id time =>
      exact hclosed id _
  | removeOrphanEntry id =>
    show ((state.applyRemoveOrphanEntry id).1.store, (state.applyRemoveOrphanEntry id).2) =
      Positions.applyRemoveOrphanEntry state.store id
    unfold applyRemoveOrphanEntry Positions.applyRemoveOrphanEntry
    cases hrow : state.store.get id with
    | none => rfl
    | some position =>
      -- a row of the id has its mint, so the removal finds one
      have hmem := List.mem_of_find?_eq_some hrow
      have hfound : ∃ removed, state.store.positions.find? (·.mint == position.mint) =
          some removed := by
        rw [← Option.isSome_iff_exists, List.find?_isSome]
        exact ⟨position, hmem, beq_self_eq_true _⟩
      obtain ⟨removed, hremoved⟩ := hfound
      simp only [removePosition, removeFirst, hremoved, Store.removeMint]
  | exitResidualClearForRetry id amount received price fee time signature percentage =>
    unfold apply applyTransition
    dsimp only
    rcases applyPartialExitVerified answers state.store id amount received price fee time
      signature percentage with ⟨store, effects | e⟩
    · rfl
    · dsimp only [applyExitFailedClearForRetry]
      rcases Positions.applyExitFailedClearForRetry again store id with ⟨store, effects | e⟩ <;>
        rfl
  | _ => rfl

/-! ## Closes that are not transitions -/

/-- The position holds a slot while it is open. Source: `manage.rs` -/
def holdsOpenSlot (position : Position) : Bool :=
  position.positionType == "buy" && !position.transactionExitVerified && position.exitTime.isNone

variable (positionId : ℤ)

/-- Source: `set_position_archived_in_memory` -/
def setArchived (archived : Bool) (now : DateTime) : State :=
  { state with store := state.store.update positionId fun position =>
      { position with archived := archived, archivedAt := if archived then some now else none } }

/-- An open position that is archived frees its slot. Source: `manage.rs` -/
def archivePosition (now : DateTime) : State :=
  match state.store.get positionId with
  | none => state
  | some position =>
    if position.archived then state
    else
      let archived := state.setArchived positionId true now
      if holdsOpenSlot position then
        { archived with slots := archived.slots.release positionId }
      else archived

/-- An open position that is restored takes a slot, if one is free. Source: `manage.rs`,
`unarchive_position` -/
def unarchivePosition (now : DateTime) : State :=
  match state.store.get positionId with
  | none => state
  | some position =>
    if !position.archived then state
    else
      let restored := state.setArchived positionId false now
      if holdsOpenSlot position then
        match restored.slots.tryAcquire with
        | some slots => { restored with slots := slots.register positionId }
        | none => restored
      else restored

/-- A position that is deleted frees its slot, unless it was archived. Source: `manage.rs`,
`delete_position` -/
def deletePosition : State :=
  match state.store.get positionId with
  | none => state
  | some position =>
    let deleted := state.removePositionById positionId
    if holdsOpenSlot position && !position.archived then
      { deleted with slots := deleted.slots.release positionId }
    else deleted

/-- What is still held is written off. Source: `force_close.rs`, `force_close_position` -/
def forceClosed (position : Position) (exitPrice : ℚ) (closedReason : String) (now : DateTime) :
    Position :=
  let pnl := position.solReceived.getD 0 - position.totalSizeSol
  { position with
    exitTime := some now
    exitPrice := some exitPrice
    effectiveExitPrice := some 0
    transactionExitVerified := true
    closedReason := some closedReason
    solReceived := some (position.solReceived.getD 0)
    totalExitedAmount :=
      wrappingAdd64 position.totalExitedAmount (position.remainingTokenAmount.getD 0)
    remainingTokenAmount := some 0
    syntheticExit := true
    pnl := some pnl
    pnlPercent := some (if 0 < position.totalSizeSol then pnl / position.totalSizeSol * 100 else 0)
    unrealizedPnl := none
    unrealizedPnlPercent := none }

/-- A position that is not closed yet is written off, and frees its slot; the loss is the bot's
unless the row was derived from wallet history. Source: `force_close.rs` -/
def forceClosePosition (positionId : ℤ) (exitPrice : ℚ) (closedReason : String) (now : DateTime) :
    State :=
  match state.store.get positionId with
  | none => state
  | some position =>
    if position.exitTime.isSome && position.transactionExitVerified then state
    else
      let closed := forceClosed position exitPrice closedReason now
      let store := state.store.update positionId fun _ => closed
      let pnl := position.solReceived.getD 0 - position.totalSizeSol
      { state with
        store := recordCloseLoss store closed pnl
        slots := state.slots.release positionId }

/-- A row the wallet's history updates; a bot position it closes frees its slot. Source:
`ledger/sync.rs`, the updates of `apply_plan` -/
def applyPlanUpdate (position : Position) : State :=
  match position.id with
  | none => state
  | some id =>
    let updated := { state with store := state.store.update id fun _ => position }
    if !position.isWalletDerived && !position.isOpen then
      { updated with slots := updated.slots.release id }
    else updated

/-- The exit signature of a close that was sent is stamped on the row of the mint. Source:
`operations/close.rs`, `close_position_direct` -/
def stampExit (mint signature : String) (exitPrice : ℚ) (exitReason : String) : State :=
  { state with
    store := state.store.updateMint mint (·.exitStamped signature exitPrice exitReason)
    sigToMint := Function.update state.sigToMint signature (some mint) }

end State

end Dripline.Positions
