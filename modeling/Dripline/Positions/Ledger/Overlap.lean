import Dripline.Found.Owed
import Dripline.Positions.Ledger.Plan
import Dripline.Positions.Recovery

/-!
# What a sync overlaps with

`sync_wallet_history` reads the rows, then what is pending, then the trader's legs, and writes its
plan row by row; operations and verifications run in between.

* `SyncEvent`, `Syncing.step` — the steps of the sync, and everything that runs in between.
* `present_of_undisturbed` — then nothing that was changed is lost, in memory and in the table.
-/

namespace Dripline.Positions

open Dripline.Found.Owed Dripline.Found.Trace

/-! ## Fields -/

/-- The fields of a row. Source: `positions/types.rs`, `Position` -/
inductive PositionField
  | id
  | mint
  | symbol
  | name
  | entryPrice
  | entryTime
  | exitPrice
  | exitTime
  | positionType
  | entrySizeSol
  | totalSizeSol
  | priceHighest
  | priceLowest
  | entryTransactionSignature
  | exitTransactionSignature
  | tokenAmount
  | effectiveEntryPrice
  | effectiveExitPrice
  | solReceived
  | profitTargetMin
  | profitTargetMax
  | liquidityTier
  | transactionEntryVerified
  | transactionExitVerified
  | entryFeeLamports
  | exitFeeLamports
  | currentPrice
  | currentPriceUpdated
  | phantomRemove
  | phantomConfirmations
  | phantomFirstSeen
  | syntheticExit
  | closedReason
  | pnl
  | pnlPercent
  | unrealizedPnl
  | unrealizedPnlPercent
  | remainingTokenAmount
  | totalExitedAmount
  | averageExitPrice
  | partialExitCount
  | dcaCount
  | averageEntryPrice
  | lastDcaTime
  | archived
  | archivedAt
  | origin
  | management
  | roundKey
  | basisComplete
  | historyComplete
  | holdingState

/-- The value of a field. -/
inductive FieldValue
  | text (value : Option String)
  | real (value : Option ℚ)
  | time (value : Option DateTime)
  | count (value : Option ℕ)
  | flag (value : Bool)
  | origin (value : PositionOrigin)
  | management (value : PositionManagement)
  deriving DecidableEq

/-- The value of a row in a field. -/
def Position.value (row : Position) : PositionField → FieldValue
  | .id => .time row.id
  | .mint => .text row.mint
  | .symbol => .text row.symbol
  | .name => .text row.name
  | .entryPrice => .real row.entryPrice
  | .entryTime => .time row.entryTime
  | .exitPrice => .real row.exitPrice
  | .exitTime => .time row.exitTime
  | .positionType => .text row.positionType
  | .entrySizeSol => .real row.entrySizeSol
  | .totalSizeSol => .real row.totalSizeSol
  | .priceHighest => .real row.priceHighest
  | .priceLowest => .real row.priceLowest
  | .entryTransactionSignature => .text row.entryTransactionSignature
  | .exitTransactionSignature => .text row.exitTransactionSignature
  | .tokenAmount => .count row.tokenAmount
  | .effectiveEntryPrice => .real row.effectiveEntryPrice
  | .effectiveExitPrice => .real row.effectiveExitPrice
  | .solReceived => .real row.solReceived
  | .profitTargetMin => .real row.profitTargetMin
  | .profitTargetMax => .real row.profitTargetMax
  | .liquidityTier => .text row.liquidityTier
  | .transactionEntryVerified => .flag row.transactionEntryVerified
  | .transactionExitVerified => .flag row.transactionExitVerified
  | .entryFeeLamports => .count row.entryFeeLamports
  | .exitFeeLamports => .count row.exitFeeLamports
  | .currentPrice => .real row.currentPrice
  | .currentPriceUpdated => .time row.currentPriceUpdated
  | .phantomRemove => .flag row.phantomRemove
  | .phantomConfirmations => .count row.phantomConfirmations
  | .phantomFirstSeen => .time row.phantomFirstSeen
  | .syntheticExit => .flag row.syntheticExit
  | .closedReason => .text row.closedReason
  | .pnl => .real row.pnl
  | .pnlPercent => .real row.pnlPercent
  | .unrealizedPnl => .real row.unrealizedPnl
  | .unrealizedPnlPercent => .real row.unrealizedPnlPercent
  | .remainingTokenAmount => .count row.remainingTokenAmount
  | .totalExitedAmount => .count row.totalExitedAmount
  | .averageExitPrice => .real row.averageExitPrice
  | .partialExitCount => .count row.partialExitCount
  | .dcaCount => .count row.dcaCount
  | .averageEntryPrice => .real row.averageEntryPrice
  | .lastDcaTime => .time row.lastDcaTime
  | .archived => .flag row.archived
  | .archivedAt => .time row.archivedAt
  | .origin => .origin row.origin
  | .management => .management row.management
  | .roundKey => .text row.roundKey
  | .basisComplete => .flag row.basisComplete
  | .historyComplete => .flag row.historyComplete
  | .holdingState => .text row.holdingState

/-- The fields an update of the table leaves alone. Source: `database/operations.rs`,
`update_position` -/
def PositionField.isKept : PositionField → Bool
  | .phantomRemove | .archived | .archivedAt | .origin | .management => true
  | _ => false

lemma Position.value_savedOver (row saved : Position) (field : PositionField) :
    (row.savedOver saved).value field =
      if field.isKept then saved.value field else row.value field := by
  cases field <;> rfl

/-! ## Changes by hand -/

/-- Source: `positions/types.rs` -/
def PositionManagement.isValidForOrigin (management : PositionManagement) :
    PositionOrigin → Bool
  | .external => management == .userOnly
  | .copy .. => true
  | _ => management != .copyTask && management != .hybrid

namespace Durable

variable (durable : Durable) (positionId : ℤ) (written : Except String Unit)

/-- The table first, then the memory; each reads its own clock.
Source: `webserver/routes/positions/manage.rs`, `archive_position` and `unarchive_position` -/
def setArchived (archived : Bool) (savedAt now : DateTime) : Durable :=
  match durable.state.store.get positionId, written with
  | some position, .ok _ =>
    if position.archived == archived then durable
    else
      { state :=
          if archived then durable.state.archivePosition positionId now
          else durable.state.unarchivePosition positionId now
        rows := Function.update durable.rows positionId ((durable.rows positionId).map fun saved =>
          { saved with
            archived := archived
            archivedAt := if archived then some savedAt else none }) }
  | _, _ => durable

/-- Source: `webserver/routes/positions/manage.rs` -/
def setManagement (management : PositionManagement) : Durable :=
  match durable.state.store.get positionId, written with
  | some position, .ok _ =>
    if management.isValidForOrigin position.origin then
      { state := { durable.state with
          store := durable.state.store.update positionId fun position =>
            { position with management := management } }
        rows := Function.update durable.rows positionId ((durable.rows positionId).map fun saved =>
          { saved with management := management }) }
    else durable
  | _, _ => durable

end Durable

namespace Ledger

/-! ## The sync -/

/-- The mints of these rows with a swap in flight. Source: `state_pending.rs`,
`mints_with_pending_swaps` -/
def mintsWithPendingSwaps (trades : Trades) (rows : List Position) : Finset String :=
  ((rows.map (·.mint)).filter fun mint => trades.exits.isPending mint).toFinset ∪
    (trades.dcas.swaps.map (·.mint)).toFinset

/-- The legs of every position. Source: `database/convenience.rs`, `get_trader_swap_legs` -/
def traderSwapLegs (store : Store) : List (ℤ × String × Bool × ℚ) :=
  (store.entries.map fun entry => (entry.positionId, entry.transactionSignature, false, entry.solSpent))
    ++ store.exits.map fun exit => (exit.positionId, exit.transactionSignature, true, exit.solReceived)

/-- How far the sync is: the rounds and the metadata, the rows that were read, the mints that were
busy, and what is left of the plan. -/
inductive SyncStage
  | idle
  | readRows (rounds : List LedgerRound) (metadata : String → Option RoundMetadata)
      (existing : List Position)
  | readPending (rounds : List LedgerRound) (metadata : String → Option RoundMetadata)
      (existing : List Position) (busyMints : Finset String)
  | applying (existing inserts updates : List Position)

/-- A plan that is written ends the sync. -/
def SyncStage.settled : SyncStage → SyncStage
  | .applying _ [] [] => .idle
  | stage => stage

/-- The rows that were read and may still be written. -/
def SyncStage.reads : SyncStage → ℤ → Option Position
  | .idle, _ => none
  | .readRows _ _ existing, id | .readPending _ _ existing _, id => existing.find? (Store.isRow id)
  | .applying existing _ updates, id =>
    if updates.any (Store.isRow id) then existing.find? (Store.isRow id) else none

/-- The process, how far the sync is, and what the fields changed by others are owed, in memory and
in the table. -/
structure Syncing where
  process : Process
  stage : SyncStage
  memory : Debts ℤ PositionField FieldValue
  table : Debts ℤ PositionField FieldValue

/-- An operation, a verification or a change by hand; or a step of the sync: it reads the rows, what
is pending, and the legs, and writes the next row of its plan. -/
inductive SyncEvent
  | operated (operation : Operation) (aftermath : Aftermath)
  | verified (flight : Flight) (transition : PositionTransition) (answers again : Answers)
  | archived (positionId : ℤ) (archived : Bool) (written : Except String Unit)
      (savedAt now : DateTime)
  | managed (positionId : ℤ) (management : PositionManagement) (written : Except String Unit)
  | loadPositions (rounds : List LedgerRound) (metadata : String → Option RoundMetadata)
  | loadPending
  | loadLegs (loaded : Bool) (now : DateTime)
  | insertRow (saved : Except String ℤ)
  | updateRow (written : Except String Unit)

/-- The steps that are not of the sync. -/
def SyncEvent.isTrade : SyncEvent → Bool
  | .operated .. | .verified .. | .archived .. | .managed .. => true
  | _ => false

namespace Syncing

variable (syncing : Syncing)

/-- The rows in memory, by their ids. -/
def inMemory : ℤ → Option Position := syncing.process.store.get

/-- The rows of the table, by their ids. -/
def inTable : ℤ → Option Position := syncing.process.trades.durable.rows

/-- The process with other positions. -/
def withDurable (durable : Durable) : Process :=
  { syncing.process with trades := { syncing.process.trades with durable := durable } }

/-- A row of the plan that is new, in the table and in memory. Source: `sync.rs`, the inserts of
`apply_plan` -/
def inserted (position : Position) (saved : Except String ℤ) : Process :=
  match saved with
  | .error _ => syncing.process
  | .ok id =>
    let position := { position with id := some id }
    let durable := syncing.process.trades.durable
    { syncing.withDurable ⟨durable.state.addPosition position,
        Function.update durable.rows id (some position)⟩ with
      ids := syncing.process.ids ++ [id] }

/-- A row of the plan that is there: a row that cannot be written is skipped. Source: `sync.rs`, the
updates of `apply_plan` -/
def updated (position : Position) (written : Except String Unit) : Process :=
  match position.id, written with
  | some id, .ok _ =>
    let durable := syncing.process.trades.durable
    match durable.rows id with
    | some saved =>
      syncing.withDurable ⟨durable.state.applyPlanUpdate position,
        Function.update durable.rows id (some (position.savedOver saved))⟩
    | none => syncing.process
  | _, _ => syncing.process

/-- What an event makes of the process. Source: `sync.rs`, `sync_wallet_history` and `apply_plan` -/
def move (e : SyncEvent) : Process :=
  match e, syncing.stage with
  | .operated operation aftermath, _ => syncing.process.step (.operated operation aftermath)
  | .verified flight transition answers again, _ =>
    syncing.process.step (.verified flight transition answers again)
  | .archived positionId archived written savedAt now, _ =>
    syncing.withDurable
      (syncing.process.trades.durable.setArchived positionId written archived savedAt now)
  | .managed positionId management written, _ =>
    syncing.withDurable
      (syncing.process.trades.durable.setManagement positionId written management)
  | .insertRow saved, .applying _ (position :: _) _ => syncing.inserted position saved
  | .updateRow written, .applying _ [] (position :: _) => syncing.updated position written
  | _, _ => syncing.process

/-- The stage after an event: each step of the sync follows the one before.
Source: `sync.rs`, `sync_wallet_history` and `apply_plan` -/
def next (e : SyncEvent) : SyncStage :=
  match e, syncing.stage with
  | .loadPositions rounds metadata, .idle => .readRows rounds metadata syncing.process.loaded
  | .loadPending, .readRows rounds metadata existing =>
    .readPending rounds metadata existing (mintsWithPendingSwaps syncing.process.trades existing)
  | .loadLegs loaded now, .readPending rounds metadata existing busyMints =>
    let legs := if loaded then traderSwapLegs syncing.process.store else []
    let plan := planPositionWrites rounds existing
      ⟨metadata, TraderLegs.fromRows legs, busyMints, now⟩
    (SyncStage.applying existing plan.inserts plan.updates).settled
  | .insertRow _, .applying existing (_ :: inserts) updates =>
    (SyncStage.applying existing inserts updates).settled
  | .updateRow _, .applying existing [] (_ :: updates) =>
    (SyncStage.applying existing [] updates).settled
  | _, stage => stage

/-- One event. A change that is not of the sync is owed its value until the sync has read it. -/
def step (e : SyncEvent) : Syncing :=
  let after : Syncing := { syncing with process := syncing.move e, stage := syncing.next e }
  if e.isTrade then
    { after with
      memory := (syncing.memory.written Position.value syncing.inMemory after.inMemory).known
        Position.value after.stage.reads
      table := (syncing.table.written Position.value syncing.inTable after.inTable).known
        Position.value after.stage.reads }
  else
    { after with
      memory := syncing.memory.known Position.value after.stage.reads
      table := syncing.table.known Position.value after.stage.reads }

/-- Every change that was made is still there, in memory and in the table. -/
structure Present : Prop where
  memory : syncing.memory.Present Position.value syncing.inMemory
  table : syncing.table.Present Position.value syncing.inTable

/-- A row that is inserted has a new id. -/
def Admits : SyncEvent → Prop
  | .insertRow (.ok id) => syncing.inMemory id = none ∧ syncing.inTable id = none
  | _ => True

/-- **A row that is written is the row that was read**: in memory, and in the table but for the
fields that an update leaves alone. -/
def Undisturbed (e : SyncEvent) : Prop :=
  match e, syncing.stage with
  | .updateRow (.ok _), .applying _ [] (position :: _) =>
    ∀ id, position.id = some id →
      (∀ row, syncing.inMemory id = some row → syncing.stage.reads id = some row) ∧
      ∀ saved, syncing.inTable id = some saved →
        ∃ read, syncing.stage.reads id = some read ∧ read.savedOver saved = saved
  | _, _ => True

/-! ## What one step takes back -/

/-- What is still owed is not what the sync has read. -/
structure Unread : Prop where
  memory : ∀ id field v, syncing.memory id field = some v →
    ¬ Debts.Finds Position.value syncing.stage.reads id field v
  table : ∀ id field v, syncing.table id field = some v →
    ¬ Debts.Finds Position.value syncing.stage.reads id field v

variable {syncing} {e : SyncEvent}

lemma unread_step : (syncing.step e).Unread := by
  unfold step
  dsimp only
  split
  · exact ⟨fun _ _ _ hv => (Debts.known_eq_some.mp hv).2,
      fun _ _ _ hv => (Debts.known_eq_some.mp hv).2⟩
  · exact ⟨fun _ _ _ hv => (Debts.known_eq_some.mp hv).2,
      fun _ _ _ hv => (Debts.known_eq_some.mp hv).2⟩

lemma Present.of_trade (h : syncing.Present) (htrade : e.isTrade = true) :
    (syncing.step e).Present := by
  unfold step
  dsimp only
  rw [if_pos htrade]
  exact ⟨(h.memory.written _).known _, (h.table.written _).known _⟩

lemma Present.of_sync (htrade : e.isTrade = false)
    (hmemory : syncing.memory.Present Position.value (syncing.move e).store.get)
    (htable : syncing.table.Present Position.value (syncing.move e).trades.durable.rows) :
    (syncing.step e).Present := by
  unfold step
  dsimp only
  rw [if_neg (by rw [htrade]; exact Bool.false_ne_true)]
  exact ⟨hmemory.known _, htable.known _⟩

variable {position : Position} {id : ℤ} {store : Store}

lemma get_replaced {row : Position} (hrow : store.get id = some row) (hid : position.id = some id) :
    (store.update id fun _ => position).get id = some position := by
  unfold Store.get at hrow
  unfold Store.update Store.get
  dsimp only
  generalize store.positions = positions at hrow ⊢
  induction positions with
  | nil => cases hrow
  | cons first rest ih =>
    unfold Store.updateFirst
    cases hfirst : Store.isRow id first with
    | true => exact List.find?_cons_of_pos (by simp [Store.isRow, hid])
    | false =>
      rw [List.find?_cons_of_neg (by simp [hfirst])] at hrow
      rw [if_neg Bool.false_ne_true, List.find?_cons_of_neg (by simp [hfirst])]
      exact ih hrow

lemma get_replaced_of_ne {other : ℤ} (hne : other ≠ id) (hid : position.id = some id) :
    (store.update id fun _ => position).get other = store.get other := by
  refine Store.find?_updateFirst_of_ne ?_ ?_ store.positions
  · intro row hrow
    have hrowId : row.id = some id := by simpa [Store.isRow] using hrow
    simpa [Store.isRow, hrowId] using Ne.symm hne
  · intro row _
    simpa [Store.isRow, hid] using Ne.symm hne

lemma store_applyPlanUpdate {state : State} (hid : position.id = some id) :
    (state.applyPlanUpdate position).store = state.store.update id fun _ => position := by
  unfold State.applyPlanUpdate
  rw [hid]
  dsimp only
  split <;> rfl

lemma Present.inserted (h : syncing.Present) {saved : Except String ℤ}
    (hadmits : syncing.Admits (.insertRow saved)) :
    syncing.memory.Present Position.value (syncing.inserted position saved).store.get ∧
      syncing.table.Present Position.value (syncing.inserted position saved).trades.durable.rows := by
  unfold Syncing.inserted
  cases saved with
  | error detail => exact ⟨h.memory, h.table⟩
  | ok id =>
    obtain ⟨hmemory, htable⟩ := hadmits
    constructor
    · intro other field v hv
      obtain ⟨row, hrow, hvalue⟩ := h.memory other field v hv
      refine ⟨row, ?_, hvalue⟩
      show (syncing.process.store.positions ++ [_]).find? (Store.isRow other) = some row
      rw [List.find?_append, show syncing.process.store.positions.find? _ = some row from hrow]
      rfl
    · intro other field v hv
      obtain ⟨row, hrow, hvalue⟩ := h.table other field v hv
      have hother : other ≠ id := by
        rintro rfl
        rw [htable] at hrow
        cases hrow
      refine ⟨row, ?_, hvalue⟩
      show Function.update syncing.process.trades.durable.rows id _ other = some row
      rw [Function.update_of_ne hother]
      exact hrow

lemma Present.updated (h : syncing.Present) (hunread : syncing.Unread)
    {written : Except String Unit}
    (hundisturbed : written.isOk = true → ∀ id, position.id = some id →
      (∀ row, syncing.inMemory id = some row → syncing.stage.reads id = some row) ∧
      ∀ saved, syncing.inTable id = some saved →
      ∃ read, syncing.stage.reads id = some read ∧ read.savedOver saved = saved) :
    syncing.memory.Present Position.value (syncing.updated position written).store.get ∧
      syncing.table.Present Position.value (syncing.updated position written).trades.durable.rows := by
  unfold Syncing.updated
  cases hid : position.id with
  | none => exact ⟨h.memory, h.table⟩
  | some id =>
    cases written with
    | error detail => exact ⟨h.memory, h.table⟩
    | ok _ =>
      obtain ⟨hmemory, htable⟩ := hundisturbed rfl id hid
      dsimp only
      cases hsaved : syncing.process.trades.durable.rows id with
      | none => exact ⟨h.memory, h.table⟩
      | some saved =>
        dsimp only
        constructor
        · refine h.memory.replaced hunread.memory fun other row hrow => ?_
          show ∃ fresh, (syncing.process.trades.durable.state.applyPlanUpdate
            position).store.get other = some fresh ∧ _
          rw [store_applyPlanUpdate hid]
          by_cases hother : other = id
          · subst hother
            exact ⟨position, get_replaced hrow hid,
              fun field => Or.inr ⟨row, hmemory row hrow, rfl⟩⟩
          · exact ⟨row, (get_replaced_of_ne hother hid).trans hrow, fun _ => Or.inl rfl⟩
        · refine h.table.replaced hunread.table fun other row hrow => ?_
          show ∃ fresh, Function.update syncing.process.trades.durable.rows id _ other =
            some fresh ∧ _
          by_cases hother : other = id
          · subst hother
            obtain rfl : saved = row := Option.some.inj (hsaved.symm.trans hrow)
            refine ⟨position.savedOver saved, Function.update_self .., fun field => ?_⟩
            rw [Position.value_savedOver]
            cases hkept : field.isKept with
            | true => exact Or.inl rfl
            | false =>
              -- a field that the update writes is that of the row that was read
              obtain ⟨read, hread, hsame⟩ := htable saved hsaved
              have hvalue := read.value_savedOver saved field
              rw [hsame, hkept, if_neg Bool.false_ne_true] at hvalue
              exact Or.inr ⟨read, hread, hvalue.symm⟩
          · exact ⟨row, (Function.update_of_ne hother _ _).trans hrow, fun _ => Or.inl rfl⟩

lemma Present.moved (h : syncing.Present) (hunread : syncing.Unread) (htrade : e.isTrade = false)
    (hadmits : syncing.Admits e) (hundisturbed : syncing.Undisturbed e) :
    syncing.memory.Present Position.value (syncing.move e).store.get ∧
      syncing.table.Present Position.value (syncing.move e).trades.durable.rows := by
  cases e with
  | operated operation aftermath | verified flight transition answers again
  | archived positionId archived written savedAt now | managed positionId management written =>
      cases htrade
  | loadPositions rounds metadata | loadPending | loadLegs loaded now => exact ⟨h.memory, h.table⟩
  | insertRow saved =>
    unfold Syncing.move
    cases syncing.stage with
    | applying existing inserts updates =>
      cases inserts with
      | nil => exact ⟨h.memory, h.table⟩
      | cons position inserts => exact h.inserted hadmits
    | _ => exact ⟨h.memory, h.table⟩
  | updateRow written =>
    unfold Syncing.move
    cases hstage : syncing.stage with
    | applying existing inserts updates =>
      cases inserts with
      | cons position inserts => exact ⟨h.memory, h.table⟩
      | nil =>
        cases updates with
        | nil => exact ⟨h.memory, h.table⟩
        | cons position updates =>
          refine h.updated hunread fun hok => ?_
          cases written with
          | error detail => cases hok
          | ok _ =>
            unfold Syncing.Undisturbed at hundisturbed
            rw [hstage] at hundisturbed ⊢
            exact hundisturbed
    | _ => exact ⟨h.memory, h.table⟩

lemma Present.step (h : syncing.Present) (hunread : syncing.Unread) (hadmits : syncing.Admits e)
    (hundisturbed : syncing.Undisturbed e) : (syncing.step e).Present := by
  cases htrade : e.isTrade with
  | true => exact h.of_trade htrade
  | false =>
    obtain ⟨hmemory, htable⟩ := h.moved hunread htrade hadmits hundisturbed
    exact .of_sync htrade hmemory htable

/-- No sync is under way, and nothing is owed. -/
def started (process : Process) : Syncing := ⟨process, .idle, Debts.nothing, Debts.nothing⟩

end Syncing

/-- **A sync loses nothing** of what operations, verifications and changes by hand made of the rows,
in memory and in the table, whatever runs when: in every run in which each row it writes is still
the row that it read. -/
theorem present_of_undisturbed (process : Process) (run : List SyncEvent)
    (hadmits : Throughout Syncing.step Syncing.Admits (.started process) run)
    (hundisturbed : Throughout Syncing.step Syncing.Undisturbed (.started process) run) :
    (run.foldl Syncing.step (.started process)).Present := by
  have hstarted : (Syncing.started process).Present ∧ (Syncing.started process).Unread :=
    ⟨⟨Debts.present_nothing _, Debts.present_nothing _⟩,
      fun _ _ _ hv => absurd hv (Option.some_ne_none _).symm,
      fun _ _ _ hv => absurd hv (Option.some_ne_none _).symm⟩
  have hfinal := (hadmits.and hundisturbed).final
    (fun syncing => syncing.Present ∧ syncing.Unread) hstarted
    fun syncing hsound e _ he => ⟨hsound.1.step hsound.2 he.1 he.2, Syncing.unread_step⟩
  exact hfinal.1

/-! ### An add that is verified while a sync runs -/

/-- What the wallet's history says of a position that was bought. -/
def heldRound : LedgerRound :=
  { testOpenRound "MINT" "open-sig:MINT" with balanceRaw := 100, totalAcquiredRaw := 100 }

/-- A sync that runs alone, and an archive after it. -/
def quietRun : List SyncEvent :=
  [.loadPositions [heldRound] fun _ => none, .loadPending, .loadLegs true 20, .updateRow (.ok ()),
    .archived 2 true (.ok ()) 30 30]

/-- A sync that runs alone loses nothing. -/
theorem present_of_undisturbed_quietRun :
    (quietRun.foldl Syncing.step (.started (boughtRun.foldl Process.step (.created 5)))).Present := by
  refine present_of_undisturbed _ quietRun ⟨trivial, trivial, trivial, trivial, trivial, trivial⟩
    ⟨trivial, trivial, trivial, ?_, trivial, trivial⟩
  rintro id ⟨⟩
  refine ⟨?_, ?_⟩
  · rintro row ⟨⟩
    rfl
  · rintro saved ⟨⟩
    exact ⟨_, rfl, rfl⟩

/-- An add of one SOL that was sent. -/
def addSent : Process :=
  (boughtRun ++ [ProcessEvent.operated (.addToPosition "MINT" 2 1 (.ok ⟨"dca-sig", 10 ^ 9, 50⟩))
    calm]).foldl Process.step (.created 5)

/-- The rows are read, the add is verified, and then what is pending is read. -/
def overlappingRun : List SyncEvent :=
  [.loadPositions [heldRound] fun _ => none,
    .verified ⟨"dca-sig", some 2, .add⟩ (.dcaVerified 2 50 1 2 5000 10 "dca-sig") (.willing 0)
      (.willing 0),
    .loadPending, .loadLegs true 20, .updateRow (.ok ())]

/-- The add was booked, and the sync writes the row without it. -/
theorem not_present :
    ¬ ∀ (process : Process) (run : List SyncEvent),
      Throughout Syncing.step Syncing.Admits (.started process) run →
      (run.foldl Syncing.step (.started process)).Present := by
  intro h
  have howed : (overlappingRun.foldl Syncing.step (.started addSent)).memory 2 .dcaCount =
      some (.count (some 1)) := rfl
  obtain ⟨row, hrow, hvalue⟩ := (h addSent overlappingRun
    ⟨trivial, trivial, trivial, trivial, trivial, trivial⟩).memory 2 .dcaCount _ howed
  have hlost : ((overlappingRun.foldl Syncing.step (.started addSent)).inMemory 2).map
      (·.value .dcaCount) = some (.count (some 0)) := rfl
  rw [hrow, Option.map_some, hvalue] at hlost
  cases hlost

end Ledger

end Dripline.Positions
