import Dripline.Found.Locks
import Dripline.Positions.Ledger.Overlap
import Dripline.Positions.Quiet

/-!
# Opens that run at once

Opens, other operations and a sync of the wallet's history step by step, with the lock of each mint
and the marks of the opens that are under way.

* `unique_of_apart` — then a mint has at most one open row, and one operation in its section.

A source without a file is in `operations/open.rs`.
-/

namespace Dripline.Positions.Ledger

open Dripline.Found.Locks Dripline.Found.Owed Dripline.Found.Trace List Function
open Dripline.Swaps (SwapResult)

/-! ## Opens -/

/-- How far an open is: it has asked for the lock; no row of the mint is open, no other open has
marked it, and neither the table nor the cooldown is in the way; it has marked the mint; it has
bought; the row is in the table, and in memory; its item waits. It fails, or is done. Source:
`open_position_impl` -/
inductive OpenStage
  | asked
  | unheld
  | unmarked
  | cleared
  | marked
  | bought (signature : String)
  | saved (signature : String) (id : ℤ) (position : Position)
  | added (signature : String) (id : ℤ)
  | enqueued
  | failed
  | done

/-- The open has found no open row of its mint, and has not added one. -/
def OpenStage.isGuarded : OpenStage → Bool
  | .unheld | .unmarked | .cleared | .marked | .bought _ | .saved .. => true
  | _ => false

/-- The permit returns when the open ends: it was not forgotten. Source: `_global_permit` -/
def OpenStage.holdsPermit : OpenStage → Bool
  | .added .. | .enqueued | .done => false
  | _ => true

/-- An open, with what it was asked for. Source: `open_position_impl` -/
structure Opening where
  mint : String
  symbol : String
  name : String
  entryPrice : ℚ
  tradeSizeSol : ℚ
  origin : PositionOrigin
  management : PositionManagement
  stage : OpenStage

/-- What an open is answered: the clock, whether the table could be read, the cooldown, whether
there is a wallet and a quote, what the swap came back with, the attempts at saving, and the
height. -/
structure OpenAnswers where
  now : DateTime
  tableRead : Bool
  cooldownSecs : ℤ
  wallet : Bool
  quoted : Bool
  reply : Except Swaps.Error SwapResult
  save : ℕ → Except String ℤ
  height : Option ℕ

/-- Source: `state.rs` -/
def pendingOpenTtlSecs : ℤ := 120

/-- The table still has the position open. Source: `is_still_open` -/
def isStillOpen (row : Position) : Bool :=
  row.positionType == "buy" && row.exitTime.isNone &&
    (row.exitTransactionSignature.isNone || !row.transactionExitVerified)

/-! ## The process -/

/-- A position that is not closed yet is written off, in memory and in the table. Source:
`webserver/routes/positions/force_close.rs`, `force_close_position` -/
def forceClose (durable : Durable) (positionId : ℤ) (exitPrice : ℚ) (closedReason : String)
    (written : Except String Unit) (now : DateTime) : Durable :=
  match (durable.state.store.get positionId).or (durable.rows positionId) with
  | none => durable
  | some position =>
    if position.exitTime.isSome && position.transactionExitVerified then durable
    else
      let closed := State.forceClosed position exitPrice closedReason now
      let store := durable.state.store.update positionId fun _ => closed
      let pnl := position.solReceived.getD 0 - position.totalSizeSol
      { state := { durable.state with
          store := recordCloseLoss store closed pnl
          slots := durable.state.slots.release positionId }
        rows :=
          match written with
          | .ok _ => Function.update durable.rows positionId
              ((durable.rows positionId).map closed.savedOver)
          | .error _ => durable.rows }

/-- A position is deleted, in the table and in memory. Source:
`webserver/routes/positions/manage.rs`, `delete_position` -/
def delete (durable : Durable) (positionId : ℤ) : Durable where
  state := durable.state.deletePosition positionId
  rows := Function.update durable.rows positionId none

/-- The process, how far the sync is, the locks of the mints, the opens by task, the mints that are
marked as being opened until a time, and when the last open was done. Source: `state.rs`,
`POSITION_LOCKS`, `PENDING_OPEN_SWAPS` and `LAST_OPEN_TIME` -/
structure Openings where
  process : Process
  stage : SyncStage
  registry : Registry ℕ String
  opens : ℕ → Option Opening
  pendingOpen : String → Option DateTime
  lastOpen : Option DateTime

/-- A task asks for the lock of a mint, an open with its permit; it takes the lock, and leaves. An
open goes a step further. An operation runs within its section. A swap in flight is verified, a
position is force closed or deleted, and the sync goes a step further. -/
inductive OpeningEvent
  | requested (task : ℕ) (mint : String)
  | asked (task : ℕ) (opening : Opening)
  | entered (task : ℕ)
  | left (task : ℕ)
  | proceeded (task : ℕ) (answers : OpenAnswers)
  | operated (task : ℕ) (operation : Operation) (aftermath : Aftermath)
  | verified (flight : Flight) (transition : PositionTransition) (answers again : Answers)
  | forceClosed (positionId : ℤ) (exitPrice : ℚ) (closedReason : String)
      (written : Except String Unit) (now : DateTime)
  | deleted (positionId : ℤ) (deleted : Except String Unit)
  | synced (e : SyncEvent)

namespace Openings

variable (openings : Openings)

/-- The rows in memory. -/
def positions : List Position := openings.process.store.positions

/-- The positions in memory and in the table. -/
def durable : Durable := openings.process.trades.durable

/-- The sync with nothing owed. -/
def syncing : Syncing := ⟨openings.process, openings.stage, Debts.nothing, Debts.nothing⟩

/-- The positions are written. -/
def withDurable (durable : Durable) : Openings :=
  { openings with process := { openings.process with
      trades := { openings.process.trades with durable := durable } } }

/-- What runs beside the opens. -/
def moved (e : SyncEvent) : Openings :=
  { openings with process := openings.syncing.move e, stage := openings.syncing.next e }

/-- The slots are written. -/
def withSlots (slots : Slots) : Openings :=
  openings.withDurable { openings.durable with
    state := { openings.durable.state with slots := slots } }

/-- The open of a task has come to a stage. -/
def advance (task : ℕ) (opening : Opening) (stage : OpenStage) : Openings :=
  { openings with opens := Function.update openings.opens task (some { opening with stage := stage }) }

/-- A mint is marked as being opened, for a while. Source: `state.rs` -/
def setPendingOpen (mint : String) (now : DateTime) : Openings :=
  { openings with
    pendingOpen := Function.update openings.pendingOpen mint
      (some (now + pendingOpenTtlSecs * 10 ^ 9)) }

/-- The mark of a mint is taken away. Source: `state.rs` -/
def clearPendingOpen (mint : String) : Openings :=
  { openings with pendingOpen := Function.update openings.pendingOpen mint none }

/-- A removal drops the lock and the mark of the mint. Source: `state.rs`, `remove_position` and
`remove_position_by_id` -/
def forget : Option String → Openings
  | some mint => { openings.clearPendingOpen mint with registry := openings.registry.drop mint }
  | none => openings

/-- The newest row of the mint in the table. Source: `database/queries.rs`,
`get_latest_position_by_mint` -/
def latest (mint : String) : Option Position := openings.process.loaded.find? (·.mint == mint)

/-- The last open was done too short a time ago. Source: `operations/open.rs`, the cooldown -/
def coolsDown (answers : OpenAnswers) : Bool :=
  openings.lastOpen.any fun last =>
    decide ((answers.now - last).tdiv (10 ^ 9) < answers.cooldownSecs)

/-- The row of an open goes into the table. Source: `position` -/
def saveOpened (opening : Opening) (signature : String) (answers : OpenAnswers) (id : ℤ) :
    Openings × Position :=
  let position := openedPosition (some id) opening.mint opening.symbol opening.name signature
    opening.entryPrice opening.tradeSizeSol opening.origin opening.management answers.now
  let process := openings.process
  ({ openings with process := { process with
      trades := { process.trades with durable := { process.trades.durable with
        rows := Function.update process.trades.durable.rows id (some position) } }
      ids := process.ids ++ [id] } }, position)

/-- A swap was sent for an open. -/
def sent (signature : String) (id : Option ℤ) : Openings :=
  { openings with process := { openings.process with
      flying := openings.process.flying ++ [⟨signature, id, .entry⟩] } }

/-- The row of an open goes into memory, and holds its slot. Source: `add_position` and `register_position_slot` -/
def addOpened (id : ℤ) (position : Position) : Openings :=
  let added := openings.durable.state.addPosition position
  (openings.withDurable { openings.durable with
    state := { added with slots := added.slots.register id } }).clearPendingOpen position.mint

/-- The item of an open waits. Source: `verification_item` -/
def enqueueOpened (opening : Opening) (signature : String) (id : ℤ) (answers : OpenAnswers) :
    Openings :=
  let item := VerificationItem.new signature opening.mint (some id) .entry
    (answers.height.map expiryHeightAt) answers.now
  { openings with process := { openings.process with
      trades := openings.process.trades.enqueue item } }

/-- The next step of an open. Source: `open_position_impl`, from the lock on -/
def proceed (task : ℕ) (opening : Opening) (answers : OpenAnswers) : Openings :=
  match opening.stage with
  | .asked =>
    if openings.registry.within task = some opening.mint then
      openings.advance task opening
        (if openings.positions.any (Position.holds opening.mint) then .failed else .unheld)
    else openings
  | .unheld =>
    let pendingOpen := fun mint => (openings.pendingOpen mint).filter (answers.now < ·)
    { openings with pendingOpen := pendingOpen }.advance task opening
      (if (pendingOpen opening.mint).isSome then .failed else .unmarked)
  | .unmarked =>
    openings.advance task opening
      (if answers.tableRead && (openings.latest opening.mint).any isStillOpen then .failed
      else if openings.coolsDown answers then .failed else .cleared)
  | .cleared =>
    if answers.wallet then
      (openings.setPendingOpen opening.mint answers.now).advance task opening .marked
    else openings.advance task opening .failed
  | .marked =>
    match answers.quoted, submittedSignature answers.reply with
    | true, some signature => openings.advance task opening (.bought signature)
    | _, _ => openings.advance task opening .failed
  | .bought signature =>
    match persistPositionWithRetry opening.mint answers.save positionSaveMaxRetries with
    | .error _ => (openings.sent signature none).advance task opening .failed
    | .ok id =>
      let saved := openings.saveOpened opening signature answers id
      (saved.1.sent signature (some id)).advance task opening (.saved signature id saved.2)
  | .saved signature id position =>
    (openings.addOpened id position).advance task opening (.added signature id)
  | .added signature id =>
    (openings.enqueueOpened opening signature id answers).advance task opening .enqueued
  | .enqueued =>
    { openings.clearPendingOpen opening.mint with lastOpen := some answers.now }.advance task
      opening .done
  | .failed | .done => openings

/-- A task gives its lock up; a permit that was not forgotten returns. -/
def leave (task : ℕ) : Openings :=
  let left := { openings with
    registry := openings.registry.leave task
    opens := Function.update openings.opens task none }
  match openings.opens task with
  | some opening =>
    if opening.stage.holdsPermit then left.withSlots openings.durable.state.slots.releasePermit
    else left
  | none => left

/-- The mint of the row that a transition removes. Source: `apply.rs`, `RemoveOrphanEntry` -/
def removedBy : PositionTransition → Option String
  | .removeOrphanEntry id => (openings.process.store.get id).map (·.mint)
  | _ => none

/-- One event. -/
def step (event : OpeningEvent) : Openings :=
  match event with
  | .requested task mint => { openings with registry := openings.registry.request task mint }
  | .asked task opening =>
    match openings.durable.state.slots.tryAcquire, openings.registry.claims task with
    | some slots, none =>
      { openings.withSlots slots with
        registry := openings.registry.request task opening.mint }.advance task opening .asked
    | _, _ => openings
  | .entered task => { openings with registry := openings.registry.enter task }
  | .left task => openings.leave task
  | .proceeded task answers =>
    match openings.opens task with
    | some opening => openings.proceed task opening answers
    | none => openings
  | .operated task operation aftermath =>
    if operation.isOpening = false ∧ openings.registry.within task = some operation.mint then
      openings.moved (.operated operation aftermath)
    else openings
  | .verified flight transition answers again =>
    (openings.moved (.verified flight transition answers again)).forget
      (openings.removedBy transition)
  | .forceClosed positionId exitPrice closedReason written now =>
    openings.withDurable
      (forceClose openings.durable positionId exitPrice closedReason written now)
  | .deleted positionId deleted =>
    match openings.durable.rows positionId, deleted with
    | some _, .ok _ =>
      (openings.withDurable (delete openings.durable positionId)).forget
        ((openings.process.store.get positionId).map (·.mint))
    | _, _ => openings
  | .synced e =>
    if e.isTrade then openings
    else
      match e, openings.stage with
      | .insertRow (.ok _), .applying _ (position :: _) _ =>
        (openings.moved e).clearPendingOpen position.mint
      | _, _ => openings.moved e

/-- A mint has at most one open row, and its section at most one task. -/
structure Unique : Prop where
  rows : ∀ mint, openRows openings.positions mint ≤ 1
  tasks : ∀ task task' mint, openings.registry.within task = some mint →
    openings.registry.within task' = some mint → task = task'

/-- An open of the mint has passed its guard, and has not added its row. -/
def IsOpening (mint : String) : Prop :=
  ∃ task opening, openings.opens task = some opening ∧ opening.mint = mint ∧
    opening.stage.isGuarded = true

/-- A lock is made only if no older one of the mint is claimed; an open row that the sync writes is
of a mint that has none beside the row it replaces, and that is not being opened. -/
def Apart (event : OpeningEvent) : Prop :=
  match event, openings.stage with
  | .requested _ mint, _ => openings.registry.Unclaimed mint
  | .asked _ opening, _ => openings.registry.Unclaimed opening.mint
  | .synced (.insertRow (.ok _)), .applying _ (position :: _) _ =>
    position.isOpen = true →
      openRows openings.positions position.mint = 0 ∧ ¬ openings.IsOpening position.mint
  | .synced (.updateRow (.ok _)), .applying _ [] (position :: _) =>
    ∀ id, position.id = some id → position.isOpen = true →
      openRows (openings.positions.eraseP (Store.isRow id)) position.mint = 0 ∧
        ¬ openings.IsOpening position.mint
  | _, _ => True

end Openings

/-! ## What a sync writes -/

section writes

variable {rounds : List LedgerRound} {existing : List Position} {context : SyncContext}

lemma timed_buildPosition (round : LedgerRound) (metadata : RoundMetadata)
    (existing : Option Position) (now : DateTime) :
    (buildPosition round metadata existing now).Timed := by
  intro hverified
  have hclosed : round.isOpen = false := by
    rw [show (buildPosition round metadata existing now).transactionExitVerified = !round.isOpen
      from rfl] at hverified
    simpa using hverified
  show (exitTimeFor round existing (entryTimeFor round existing now)).isSome = true
  unfold exitTimeFor
  rw [hclosed]
  simp

lemma timed_reconcileOwnedPosition {row : Position} (htimed : row.Timed) (round : LedgerRound)
    (metadata : RoundMetadata) (legs : Option TraderLegs) (now : DateTime) :
    (reconcileOwnedPosition row round metadata legs now).Timed := by
  have hgrown : (growOwnedPosition row round metadata legs).Timed := by
    unfold Position.Timed
    rw [growOwnedPosition_field row round metadata legs (·.exitTime) fun _ => rfl,
      growOwnedPosition_field row round metadata legs (·.transactionExitVerified) fun _ => rfl]
    exact htimed
  rcases reconcileOwnedPosition_cases row round metadata legs now with
    ⟨h, -, -⟩ | ⟨-, -, h⟩ | ⟨-, -, h⟩
  · rw [h]
    exact hgrown
  · rw [h]
    exact hgrown
  · rw [h]
    exact fun _ => rfl

lemma timed_planPositionWrites (hexisting : ∀ row ∈ existing, row.Timed) :
    ∀ row ∈ (planPositionWrites rounds existing context).inserts ++
      (planPositionWrites rounds existing context).updates, row.Timed := by
  intro position hposition
  rcases mem_append.mp hposition with hinsert | hupdate
  · obtain ⟨write, hwrite, hinserted⟩ := mem_filterMap.mp hinsert
    obtain ⟨⟨round, current⟩, -, hwrites⟩ := mem_filterMap.mp hwrite
    cases write with
    | update row => cases hinserted
    | insert row =>
      obtain rfl := Option.some.inj hinserted
      obtain ⟨hnone, -⟩ := writeFor_insert hwrites
      dsimp only at hnone hwrites
      rw [hnone, writeFor_none] at hwrites
      cases hwrites
      exact timed_buildPosition round _ none context.now
  · obtain ⟨round, row, hclaim, hwrites⟩ := mem_updates hupdate
    have hrow := ((of_mem_claims hclaim).1 row rfl).1
    rcases @writeFor_some_cases context round row with hnone | ⟨-, howned⟩ | ⟨-, hderived⟩
    · rw [hnone] at hwrites
      cases hwrites
    · rw [howned] at hwrites
      cases hwrites
      exact timed_reconcileOwnedPosition (hexisting row hrow) round _ _ context.now
    · rw [hderived] at hwrites
      cases hwrites
      exact timed_buildPosition round _ (some row) context.now

/-- The rows that a sync holds. -/
def SyncStage.rows : SyncStage → List Position
  | .idle => []
  | .readRows _ _ existing | .readPending _ _ existing _ => existing
  | .applying _ inserts updates => inserts ++ updates

lemma SyncStage.rows_settled (stage : SyncStage) : ∀ row ∈ stage.settled.rows, row ∈ stage.rows := by
  intro row hrow
  unfold SyncStage.settled at hrow
  split at hrow
  · cases hrow
  · exact hrow

lemma Syncing.timed_next {syncing : Syncing} {e : SyncEvent}
    (htable : ∀ id row, syncing.process.trades.durable.rows id = some row → row.Timed)
    (hstage : ∀ row ∈ syncing.stage.rows, row.Timed) : ∀ row ∈ (syncing.next e).rows, row.Timed := by
  unfold Syncing.next
  split
  case h_1 rounds metadata _ =>
    intro row hrow
    have hloaded := (Dripline.Found.StableSort.sortBy_perm _ _).mem_iff.mp hrow
    obtain ⟨id, -, hid⟩ := mem_filterMap.mp hloaded
    exact htable id row hid
  case h_2 rounds metadata existing heq =>
    rw [heq] at hstage
    exact hstage
  case h_3 loaded now rounds metadata existing busyMints heq =>
    rw [heq] at hstage
    exact fun row hrow => timed_planPositionWrites hstage row (SyncStage.rows_settled _ row hrow)
  case h_4 existing position inserts updates heq =>
    rw [heq] at hstage
    exact fun row hrow => hstage row (mem_cons_of_mem position
      (SyncStage.rows_settled _ row hrow))
  case h_5 existing position updates heq =>
    rw [heq] at hstage
    exact fun row hrow => hstage row (mem_cons_of_mem position
      (SyncStage.rows_settled _ row hrow))
  case h_6 => exact hstage

end writes

/-! ## Rows that a sync or an open writes -/

lemma openRows_append (positions : List Position) (position : Position) (mint : String) :
    openRows (positions ++ [position]) mint =
      openRows positions mint + if position.holds mint = true then 1 else 0 := by
  unfold openRows
  rw [countP_append, countP_singleton]

lemma openRows_replaced (test : Position → Bool) (position : Position)
    (positions : List Position) (mint : String) :
    openRows (Store.updateFirst test (fun _ => position) positions) mint ≤
      openRows (positions.eraseP test) mint + if position.holds mint = true then 1 else 0 := by
  unfold openRows
  induction positions with
  | nil => exact Nat.zero_le _
  | cons row positions ih =>
    unfold Store.updateFirst
    by_cases htest : test row = true
    · rw [if_pos htest, eraseP_cons_of_pos htest, countP_cons]
    · rw [if_neg htest, eraseP_cons_of_neg htest, countP_cons, countP_cons]
      omega

lemma timed_replaced {test : Position → Bool} {position : Position} {positions : List Position}
    (htimed : position.Timed) (hothers : ∀ row ∈ positions, row.Timed) :
    ∀ row ∈ Store.updateFirst test (fun _ => position) positions, row.Timed := by
  induction positions with
  | nil => exact fun _ hrow => by cases hrow
  | cons first positions ih =>
    obtain ⟨hfirst, hrest⟩ := forall_mem_cons.mp hothers
    unfold Store.updateFirst
    split
    · exact forall_mem_cons.mpr ⟨htimed, hrest⟩
    · exact forall_mem_cons.mpr ⟨hfirst, ih hrest⟩

lemma Position.holds_of_ne {position : Position} {mint : String} (hmint : position.mint ≠ mint) :
    ¬ position.holds mint = true := by
  simp [Position.holds, hmint]

namespace Openings

/-! ## What holds of the opens -/

/-- The claims of a mint are on one lock, and a mint has at most one open row; an open that has
passed its guard is within its section, and its mint has none; closed rows have the times of their
exits. -/
structure Sound (openings : Openings) : Prop where
  shared : openings.registry.Shared
  rows : ∀ mint, openRows openings.positions mint ≤ 1
  guarded : ∀ task opening, openings.opens task = some opening → opening.stage.isGuarded = true →
    openings.registry.within task = some opening.mint ∧
      openRows openings.positions opening.mint = 0
  saved : ∀ task opening signature id position, openings.opens task = some opening →
    opening.stage = .saved signature id position → position.mint = opening.mint ∧ position.Timed
  timed : openings.durable.Timed
  plan : ∀ row ∈ openings.stage.rows, row.Timed

variable {openings after : Openings} {task : ℕ} {opening : Opening} {stage : OpenStage}

lemma Sound.of_step (h : openings.Sound) (hshared : after.registry.Shared)
    (hrows : ∀ mint, openRows after.positions mint ≤ openRows openings.positions mint ∨
      openRows after.positions mint ≤ 1 ∧ ¬ after.IsOpening mint)
    (hguarded : ∀ task opening, after.opens task = some opening → opening.stage.isGuarded = true →
      after.registry.within task = some opening.mint ∧
        openRows openings.positions opening.mint = 0)
    (hsaved : ∀ task opening signature id position, after.opens task = some opening →
      opening.stage = .saved signature id position → position.mint = opening.mint ∧ position.Timed)
    (htimed : after.durable.Timed) (hplan : ∀ row ∈ after.stage.rows, row.Timed) :
    after.Sound where
  shared := hshared
  rows := fun mint => by
    rcases hrows mint with hfewer | ⟨hone, -⟩
    · exact hfewer.trans (h.rows mint)
    · exact hone
  guarded := fun task opening hopening hstage => by
    obtain ⟨hwithin, hnone⟩ := hguarded task opening hopening hstage
    rcases hrows opening.mint with hfewer | ⟨-, hnot⟩
    · exact ⟨hwithin, by omega⟩
    · exact absurd ⟨task, opening, hopening, rfl, hstage⟩ hnot
  saved := hsaved
  timed := htimed
  plan := hplan

lemma Sound.beside (h : openings.Sound) (hshared : after.registry.Shared)
    (hwithin : ∀ task mint, openings.registry.within task = some mint →
      after.registry.within task = some mint)
    (hopens : after.opens = openings.opens) (hquiet : openings.durable.Quiet after.durable)
    (hplan : ∀ row ∈ after.stage.rows, row.Timed) : after.Sound := by
  refine h.of_step hshared (fun mint => Or.inl (hquiet.opens h.timed mint)) ?_ ?_
    (hquiet.timed h.timed) hplan
  · rw [hopens]
    intro task opening hopening hstage
    obtain ⟨hin, hnone⟩ := h.guarded task opening hopening hstage
    exact ⟨hwithin task opening.mint hin, hnone⟩
  · rw [hopens]
    exact h.saved

lemma opens_advance {other : ℕ} {found : Opening}
    (hfound : (openings.advance task opening stage).opens other = some found) :
    other = task ∧ found = { opening with stage := stage } ∨
      other ≠ task ∧ openings.opens other = some found := by
  unfold advance at hfound
  dsimp only at hfound
  by_cases hother : other = task
  · subst hother
    rw [update_self] at hfound
    exact Or.inl ⟨rfl, (Option.some.inj hfound).symm⟩
  · rw [update_of_ne hother] at hfound
    exact Or.inr ⟨hother, hfound⟩

lemma Sound.sound_advance (h : openings.Sound)
    (hguarded : stage.isGuarded = true → openings.registry.within task = some opening.mint ∧
      openRows openings.positions opening.mint = 0)
    (hsaved : ∀ signature id position, stage = .saved signature id position →
      position.mint = opening.mint ∧ position.Timed) :
    (openings.advance task opening stage).Sound := by
  refine h.of_step h.shared (fun _ => Or.inl le_rfl) ?_ ?_ h.timed h.plan
  · intro other found hfound hstage
    rcases opens_advance hfound with ⟨rfl, rfl⟩ | ⟨-, hbefore⟩
    · exact hguarded hstage
    · exact h.guarded other found hbefore hstage
  · intro other found signature id position hfound hstage
    rcases opens_advance hfound with ⟨rfl, rfl⟩ | ⟨-, hbefore⟩
    · exact hsaved signature id position hstage
    · exact h.saved other found signature id position hbefore hstage

lemma Sound.failed (h : openings.Sound) (task : ℕ) (opening : Opening) :
    (openings.advance task opening .failed).Sound :=
  h.sound_advance (fun hguarded => by cases hguarded) fun _ _ _ hsaved => by cases hsaved

lemma Sound.sound_marked (h : openings.Sound) (pendingOpen : String → Option DateTime) :
    Sound { openings with pendingOpen := pendingOpen } :=
  ⟨h.shared, h.rows, h.guarded, h.saved, h.timed, h.plan⟩

lemma Sound.sound_forget (h : openings.Sound) (mint : Option String) :
    (openings.forget mint).Sound := by
  cases mint with
  | none => exact h
  | some mint =>
    exact ⟨h.shared.drop, h.rows, h.guarded, h.saved, h.timed, h.plan⟩

lemma Sound.sound_slots (h : openings.Sound) (slots : Slots) : (openings.withSlots slots).Sound :=
  ⟨h.shared, h.rows, h.guarded, h.saved, ⟨h.timed.memory, h.timed.table⟩, h.plan⟩

/-! ### The steps of an open -/

variable {position : Position}

lemma Sound.sound_added (h : openings.Sound) (hopening : openings.opens task = some opening)
    {signature : String} {id : ℤ} (hstage : opening.stage = .saved signature id position) :
    ((openings.addOpened id position).advance task opening (.added signature id)).Sound := by
  obtain ⟨hmint, htimed⟩ := h.saved task opening signature id position hopening hstage
  have hguarded : opening.stage.isGuarded = true := by
    rw [hstage]
    rfl
  obtain ⟨hwithin, hnone⟩ := h.guarded task opening hopening hguarded
  have hbefore : ∀ other found, ((openings.addOpened id position).advance task opening
      (.added signature id)).opens other = some found → found.stage.isGuarded = true ∨
        (∃ signature id position, found.stage = .saved signature id position) →
      other ≠ task ∧ openings.opens other = some found := by
    intro other found hfound hstage
    rcases opens_advance hfound with ⟨rfl, rfl⟩ | hbefore
    · rcases hstage with hstage | ⟨_, _, _, hstage⟩ <;> cases hstage
    · exact hbefore
  refine h.of_step h.shared ?_ ?_ ?_ ?_ h.plan
  · intro mint
    show openRows (openings.positions ++ [position]) mint ≤ _ ∨
      openRows (openings.positions ++ [position]) mint ≤ 1 ∧ _
    rw [openRows_append]
    by_cases hsame : mint = opening.mint
    · right
      rw [hsame, hnone]
      refine ⟨by split <;> omega, ?_⟩
      rintro ⟨other, found, hfound, hfoundmint, hfoundstage⟩
      obtain ⟨hother, hold⟩ := hbefore other found hfound (Or.inl hfoundstage)
      have hin := (h.guarded other found hold hfoundstage).1
      rw [hfoundmint] at hin
      exact hother (h.shared.within_unique hin hwithin)
    · left
      rw [if_neg (Position.holds_of_ne fun heq => hsame (heq.symm.trans hmint))]
      exact le_rfl
  · intro other found hfound hfoundstage
    exact h.guarded other found (hbefore other found hfound (Or.inl hfoundstage)).2 hfoundstage
  · intro other found signature' id' position' hfound hfoundstage
    exact h.saved other found signature' id' position'
      (hbefore other found hfound (Or.inr ⟨_, _, _, hfoundstage⟩)).2 hfoundstage
  · refine ⟨fun row hrow => ?_, h.timed.table⟩
    rcases mem_append.mp hrow with hrow | hrow
    · exact h.timed.memory row hrow
    · obtain rfl := mem_singleton.mp hrow
      exact htimed

lemma Sound.sound_saveOpened (h : openings.Sound) (opening : Opening) (signature : String)
    (answers : OpenAnswers) (id : ℤ) :
    (openings.saveOpened opening signature answers id).1.Sound := by
  refine h.beside h.shared (fun _ _ hin => hin) rfl ?_ h.plan
  refine .of_memory (Quiet.refl openings.positions) fun htimed _ key row hrow => ?_
  change Function.update openings.durable.rows id _ key = some row at hrow
  by_cases hkey : key = id
  · rw [hkey, update_self] at hrow
    obtain rfl := Option.some.inj hrow
    exact fun hverified => by cases hverified
  · rw [update_of_ne hkey] at hrow
    exact htimed.table key row hrow

lemma Sound.sound_proceed (h : openings.Sound) (hopening : openings.opens task = some opening)
    (answers : OpenAnswers) : (openings.proceed task opening answers).Sound := by
  unfold proceed
  cases hstage : opening.stage with
  | asked =>
    dsimp only
    split
    case isFalse => exact h
    case isTrue hwithin =>
      cases hheld : openings.positions.any (Position.holds opening.mint) with
      | true => exact h.failed task opening
      | false =>
        refine h.sound_advance (fun _ => ⟨hwithin, ?_⟩) fun _ _ _ hsaved => by cases hsaved
        exact countP_eq_zero.mpr (any_eq_false.mp hheld)
  | unheld =>
    have hguarded := h.guarded task opening hopening (by rw [hstage]; rfl)
    dsimp only
    split
    · exact (h.sound_marked _).failed task opening
    · exact (h.sound_marked _).sound_advance (fun _ => hguarded)
        fun _ _ _ hsaved => by cases hsaved
  | unmarked =>
    have hguarded := h.guarded task opening hopening (by rw [hstage]; rfl)
    dsimp only
    split
    · exact h.failed task opening
    · split
      · exact h.failed task opening
      · exact h.sound_advance (fun _ => hguarded) fun _ _ _ hsaved => by cases hsaved
  | cleared =>
    have hguarded := h.guarded task opening hopening (by rw [hstage]; rfl)
    dsimp only
    split
    · exact (h.sound_marked _).sound_advance (fun _ => hguarded)
        fun _ _ _ hsaved => by cases hsaved
    · exact h.failed task opening
  | marked =>
    have hguarded := h.guarded task opening hopening (by rw [hstage]; rfl)
    dsimp only
    split
    · exact h.sound_advance (fun _ => hguarded) fun _ _ _ hsaved => by cases hsaved
    · exact h.failed task opening
  | bought signature =>
    have hguarded := h.guarded task opening hopening (by rw [hstage]; rfl)
    dsimp only
    split
    case h_1 =>
      have hsent : (openings.sent signature none).Sound :=
        ⟨h.shared, h.rows, h.guarded, h.saved, h.timed, h.plan⟩
      exact hsent.failed task opening
    case h_2 id _ =>
      have hsaved := h.sound_saveOpened opening signature answers id
      have hsent : ((openings.saveOpened opening signature answers id).1.sent signature
          (some id)).Sound :=
        ⟨hsaved.shared, hsaved.rows, hsaved.guarded, hsaved.saved, hsaved.timed, hsaved.plan⟩
      refine hsent.sound_advance (fun _ => hguarded) fun _ _ _ heq => ?_
      cases heq
      exact ⟨rfl, fun hverified => by cases hverified⟩
  | saved signature id position => exact h.sound_added hopening hstage
  | added signature id =>
    have henqueued : (openings.enqueueOpened opening signature id answers).Sound :=
      ⟨h.shared, h.rows, h.guarded, h.saved, h.timed, h.plan⟩
    exact henqueued.sound_advance (fun hguarded => by cases hguarded)
      fun _ _ _ hsaved => by cases hsaved
  | enqueued =>
    have hdone : Sound { openings.clearPendingOpen opening.mint with
        lastOpen := some answers.now } :=
      ⟨h.shared, h.rows, h.guarded, h.saved, h.timed, h.plan⟩
    exact hdone.sound_advance (fun hguarded => by cases hguarded)
      fun _ _ _ hsaved => by cases hsaved
  | failed => exact h
  | done => exact h

lemma Sound.sound_leave (h : openings.Sound) (task : ℕ) : (openings.leave task).Sound := by
  have hleft : Sound { openings with
      registry := openings.registry.leave task
      opens := Function.update openings.opens task none } := by
    have hothers : ∀ other found, Function.update openings.opens task none other = some found →
        other ≠ task ∧ openings.opens other = some found := by
      intro other found hfound
      by_cases hother : other = task
      · rw [hother, update_self] at hfound
        cases hfound
      · rw [update_of_ne hother] at hfound
        exact ⟨hother, hfound⟩
    refine h.of_step h.shared.leave (fun _ => Or.inl le_rfl) ?_ ?_ h.timed h.plan
    · intro other found hfound hstage
      obtain ⟨hother, hbefore⟩ := hothers other found hfound
      obtain ⟨hin, hnone⟩ := h.guarded other found hbefore hstage
      exact ⟨Registry.within_leave hother hin, hnone⟩
    · intro other found signature id position hfound hstage
      exact h.saved other found signature id position (hothers other found hfound).2 hstage
  unfold leave
  dsimp only
  split
  · split
    · exact hleft.sound_slots _
    · exact hleft
  · exact hleft

lemma Sound.sound_request (h : openings.Sound) (task : ℕ) {mint : String}
    (hunclaimed : openings.registry.Unclaimed mint) :
    Sound { openings with registry := openings.registry.request task mint } :=
  h.beside (h.shared.request hunclaimed) (fun _ _ hin => Registry.within_request hin) rfl
    (.refl openings.durable) h.plan

/-! ### What runs beside the opens -/

lemma quiet_forceClose (durable : Durable) (positionId : ℤ) (exitPrice : ℚ) (reason : String)
    (written : Except String Unit) (now : DateTime) :
    durable.Quiet (forceClose durable positionId exitPrice reason written now) := by
  unfold forceClose
  split
  · exact .refl durable
  · split
    · exact .refl durable
    · refine .of_memory ?_ fun htimed _ => ?_
      · dsimp only
        rw [positions_recordCloseLoss]
        exact quiet_updateFirst (fun _ => Position.calms_of_left rfl) _
      · dsimp only
        cases written with
        | ok _ => exact timed_update htimed.table fun _ _ _ => rfl
        | error detail => exact htimed.table

lemma quiet_delete (durable : Durable) (positionId : ℤ) :
    durable.Quiet (delete durable positionId) := by
  have hmemory : Quiet durable.state.store.positions
      (durable.state.deletePosition positionId).store.positions := by
    have hremoved : Quiet durable.state.store.positions
        (durable.state.removePositionById positionId).store.positions := by
      unfold State.removePositionById State.removeFirst
      split
      · exact Quiet.of_sublist eraseP_sublist
      · exact Quiet.refl _
    unfold State.deletePosition
    split
    · exact Quiet.refl _
    · dsimp only
      split <;> exact hremoved
  refine .of_memory hmemory fun htimed _ key row hrow => ?_
  change Function.update durable.rows positionId none key = some row at hrow
  by_cases hkey : key = positionId
  · rw [hkey, update_self] at hrow
    cases hrow
  · rw [update_of_ne hkey] at hrow
    exact htimed.table key row hrow

variable {e : SyncEvent}

lemma Sound.sound_moved (h : openings.Sound)
    (hquiet : openings.durable.Quiet (openings.syncing.move e).trades.durable) :
    (openings.moved e).Sound :=
  h.beside h.shared (fun _ _ hin => hin) rfl hquiet
    (Syncing.timed_next h.timed.table h.plan)

lemma durable_operated (process : Process) (operation : Operation) (aftermath : Aftermath) :
    (process.step (.operated operation aftermath)).trades.durable =
      (operation.run aftermath (operation.begun process.trades)).1.durable := by
  unfold Process.step
  dsimp only
  cases operation.sent <;> rfl

variable {existing updates : List Position}

lemma Sound.sound_inserted (h : openings.Sound) {inserts : List Position}
    (hstage : openings.stage = .applying existing (position :: inserts) updates)
    {saved : Except String ℤ} (hapart : openings.Apart (.synced (.insertRow saved))) :
    (openings.moved (.insertRow saved)).Sound := by
  have htimed : position.Timed :=
    h.plan position (by rw [hstage]; exact mem_cons_self)
  have hmove : openings.syncing.move (.insertRow saved) = openings.syncing.inserted position saved := by
    unfold Syncing.move
    rw [show openings.syncing.stage = openings.stage from rfl, hstage]
  cases saved with
  | error detail =>
    refine h.sound_moved ?_
    rw [hmove]
    exact .refl openings.durable
  | ok id =>
    have hpositions : (openings.moved (.insertRow (.ok id))).positions =
        openings.positions ++ [{ position with id := some id }] :=
      congrArg (·.store.positions) hmove
    refine h.of_step h.shared ?_ h.guarded h.saved ?_ (Syncing.timed_next h.timed.table h.plan)
    · intro mint
      rw [hpositions, openRows_append]
      by_cases hholds : position.holds mint = true
      · right
        -- the row is open and of the mint, so the mint had none
        obtain ⟨hmint, hopen⟩ := Bool.and_eq_true_iff.mp hholds
        obtain rfl := beq_iff_eq.mp hmint
        unfold Apart at hapart
        rw [hstage] at hapart
        obtain ⟨hnone, hnot⟩ := hapart hopen
        rw [hnone]
        exact ⟨by split <;> omega, hnot⟩
      · left
        rw [if_neg (show ¬ ({ position with id := some id } : Position).holds mint =
          true from hholds)]
        exact le_rfl
    · have hdurable : (openings.moved (.insertRow (.ok id))).durable =
          (openings.syncing.inserted position (.ok id)).trades.durable :=
        congrArg (·.trades.durable) hmove
      rw [hdurable]
      refine ⟨fun row hrow => ?_, fun key row hrow => ?_⟩
      · rcases mem_append.mp hrow with hrow | hrow
        · exact h.timed.memory row hrow
        · rw [mem_singleton.mp hrow]
          exact htimed
      · change Function.update openings.durable.rows id _ key = some row at hrow
        by_cases hkey : key = id
        · rw [hkey, update_self] at hrow
          rw [← Option.some.inj hrow]
          exact htimed
        · rw [update_of_ne hkey] at hrow
          exact h.timed.table key row hrow

lemma updated_cases (position : Position) (written : Except String Unit) :
    openings.syncing.updated position written = openings.process ∨
      ∃ id saved, position.id = some id ∧ written = .ok () ∧ openings.durable.rows id = some saved ∧
        (openings.syncing.updated position written).trades.durable =
          ⟨openings.durable.state.applyPlanUpdate position,
            Function.update openings.durable.rows id (some (position.savedOver saved))⟩ := by
  unfold Syncing.updated
  cases hid : position.id with
  | none => exact Or.inl rfl
  | some id =>
    cases written with
    | error detail => exact Or.inl rfl
    | ok _ =>
      dsimp only
      cases hsaved : openings.syncing.process.trades.durable.rows id with
      | none => exact Or.inl rfl
      | some saved => exact Or.inr ⟨id, saved, rfl, rfl, hsaved, rfl⟩

lemma Sound.sound_updated (h : openings.Sound)
    (hstage : openings.stage = .applying existing [] (position :: updates))
    {written : Except String Unit} (hapart : openings.Apart (.synced (.updateRow written))) :
    (openings.moved (.updateRow written)).Sound := by
  have htimed : position.Timed :=
    h.plan position (by rw [hstage]; exact mem_cons_self)
  have hmove : openings.syncing.move (.updateRow written) =
      openings.syncing.updated position written := by
    unfold Syncing.move
    rw [show openings.syncing.stage = openings.stage from rfl, hstage]
  rcases openings.updated_cases position written with
    hsame | ⟨id, saved, hid, rfl, hsaved, hdurable⟩
  · refine h.sound_moved ?_
    rw [hmove, hsame]
    exact .refl openings.durable
  · have hupdated := (congrArg (·.trades.durable) hmove).trans hdurable
    have hpositions : (openings.moved (.updateRow (.ok ()))).positions =
        Store.updateFirst (Store.isRow id) (fun _ => position) openings.positions :=
      (congrArg (·.state.store.positions) hupdated).trans
        (congrArg (·.positions) (Syncing.store_applyPlanUpdate hid))
    refine h.of_step h.shared ?_ h.guarded h.saved ⟨?_, ?_⟩
      (Syncing.timed_next h.timed.table h.plan)
    · intro mint
      have hreplaced := openRows_replaced (Store.isRow id) position openings.positions mint
      rw [hpositions]
      by_cases hholds : position.holds mint = true
      · right
        -- the other rows of its mint are closed
        obtain ⟨hmint, hopen⟩ := Bool.and_eq_true_iff.mp hholds
        obtain rfl := beq_iff_eq.mp hmint
        unfold Apart at hapart
        rw [hstage] at hapart
        obtain ⟨hnone, hnot⟩ := hapart id hid hopen
        rw [hnone, if_pos hholds] at hreplaced
        exact ⟨hreplaced, hnot⟩
      · left
        rw [if_neg hholds] at hreplaced
        exact hreplaced.trans eraseP_sublist.countP_le
    · intro row hrow
      change row ∈ (openings.moved (.updateRow (.ok ()))).positions at hrow
      rw [hpositions] at hrow
      exact timed_replaced htimed h.timed.memory row hrow
    · intro key row hrow
      change (openings.syncing.move (.updateRow (.ok ()))).trades.durable.rows key = some row at hrow
      rw [hupdated] at hrow
      by_cases hkey : key = id
      · dsimp only at hrow
        rw [hkey, update_self] at hrow
        rw [← Option.some.inj hrow]
        exact htimed
      · dsimp only at hrow
        rw [update_of_ne hkey] at hrow
        exact h.timed.table key row hrow

lemma Sound.sound_synced (h : openings.Sound) (htrade : e.isTrade = false)
    (hapart : openings.Apart (.synced e)) : (openings.moved e).Sound := by
  have hidle : openings.syncing.move e = openings.process → (openings.moved e).Sound := by
    intro hsame
    refine h.sound_moved ?_
    rw [hsame]
    exact .refl openings.durable
  cases e with
  | operated | verified | archived | managed => cases htrade
  | loadPositions | loadPending | loadLegs => exact hidle rfl
  | insertRow saved =>
    cases hstage : openings.stage with
    | applying existing inserts updates =>
      cases inserts with
      | nil => exact hidle (by unfold Syncing.move syncing; rw [hstage])
      | cons position inserts => exact h.sound_inserted hstage hapart
    | _ => exact hidle (by unfold Syncing.move syncing; rw [hstage])
  | updateRow written =>
    cases hstage : openings.stage with
    | applying existing inserts updates =>
      cases inserts with
      | cons position inserts => exact hidle (by unfold Syncing.move syncing; rw [hstage])
      | nil =>
        cases updates with
        | nil => exact hidle (by unfold Syncing.move syncing; rw [hstage])
        | cons position updates => exact h.sound_updated hstage hapart
    | _ => exact hidle (by unfold Syncing.move syncing; rw [hstage])

lemma Sound.sound_step (h : openings.Sound) {event : OpeningEvent}
    (hapart : openings.Apart event) : (openings.step event).Sound := by
  cases event with
  | requested task mint => exact h.sound_request task hapart
  | asked task opening =>
    unfold step
    dsimp only
    split
    case h_1 slots _ _ =>
      have hrequested : Sound { openings.withSlots slots with
          registry := openings.registry.request task opening.mint } :=
        (h.sound_slots slots).sound_request task hapart
      exact hrequested.sound_advance (fun hguarded => by cases hguarded)
        fun _ _ _ hsaved => by cases hsaved
    case h_2 => exact h
  | entered task =>
    exact h.beside h.shared.enter (fun _ _ hin => Registry.within_enter hin) rfl
      (.refl openings.durable) h.plan
  | left task => exact h.sound_leave task
  | proceeded task answers =>
    unfold step
    dsimp only
    split
    case h_1 opening hopening => exact h.sound_proceed hopening answers
    case h_2 => exact h
  | operated task operation aftermath =>
    unfold step
    dsimp only
    split
    case isTrue hruns =>
      refine h.sound_moved ?_
      show openings.durable.Quiet
        (openings.process.step (.operated operation aftermath)).trades.durable
      rw [durable_operated]
      exact operation.quiet_run aftermath openings.process.trades hruns.1
    case isFalse => exact h
  | verified flight transition answers again =>
    have hquiet : openings.durable.Quiet (openings.syncing.move
        (.verified flight transition answers again)).trades.durable :=
      openings.durable.quiet_apply answers again transition
    exact (h.sound_moved hquiet).sound_forget _
  | forceClosed positionId exitPrice reason written now =>
    exact h.beside h.shared (fun _ _ hin => hin) rfl
      (quiet_forceClose openings.durable positionId exitPrice reason written now) h.plan
  | deleted positionId deleted =>
    unfold step
    dsimp only
    split
    · have hdeleted : (openings.withDurable (delete openings.durable positionId)).Sound :=
        h.beside h.shared (fun _ _ hin => hin) rfl (quiet_delete openings.durable positionId)
          h.plan
      exact hdeleted.sound_forget _
    · exact h
  | synced e =>
    unfold step
    dsimp only
    split
    · exact h
    · have hmoved := h.sound_synced (Bool.eq_false_iff.mpr ‹_›) hapart
      split
      · exact hmoved.sound_marked _
      · exact hmoved

/-- No sync is under way, and nobody has asked for a lock. -/
def started (process : Process) : Openings :=
  ⟨process, .idle, Registry.empty, fun _ => none, fun _ => none, none⟩

end Openings

/-- Closed rows have the times of their exits, and a mint has at most one open row. -/
structure Tidy (process : Process) : Prop where
  timed : process.trades.durable.Timed
  rows : ∀ mint, openRows process.store.positions mint ≤ 1

/-- **One open row a mint, and one operation in its section**, in whatever order opens, closes,
removals and a sync go on: in every run that makes no lock of a mint while an older one is used, and
in which the sync writes no open row of a mint that has one or is being opened. -/
theorem unique_of_apart (process : Process) (htidy : Tidy process) (run : List OpeningEvent)
    (hapart : Throughout Openings.step Openings.Apart (.started process) run) :
    (run.foldl Openings.step (.started process)).Unique := by
  have hstarted : (Openings.started process).Sound :=
    ⟨Registry.shared_empty, htidy.rows, fun _ _ hopening => (by cases hopening),
      fun _ _ _ _ _ hopening => (by cases hopening), htidy.timed, fun _ hrow => (by cases hrow)⟩
  have hsound := hapart.final Openings.Sound hstarted fun _ hs _ _ he => hs.sound_step he
  exact ⟨hsound.rows, fun _ _ _ htask htask' => hsound.shared.within_unique htask htask'⟩

/-! ### A buy that a sync sees, and a lock that a removal drops -/

/-- An open of a mint by hand. -/
def handOpening : Opening := ⟨"MINT", "TOK", "Token", 2, 2, .manual, .userOnly, .asked⟩

/-- Nothing is in the way of the open. -/
def fairAnswers : OpenAnswers :=
  ⟨0, true, 5, true, true, .ok ⟨"open-sig", 2 * 10 ^ 9, 100⟩, fun _ => .ok 2, some 100⟩

/-- A task opens the mint: the guard, the mark and the swap. -/
def buyRun (task : ℕ) : List OpeningEvent :=
  [.asked task handOpening, .entered task] ++
    List.replicate 5 (.proceeded task fairAnswers)

/-- The row of the open, its item, and the end of the section. -/
def registerRun (task : ℕ) : List OpeningEvent :=
  List.replicate 4 (.proceeded task fairAnswers) ++ [.left task]

/-- A sync of one round that the wallet still holds. -/
def importRun (mint : String) : List OpeningEvent :=
  [.synced (.loadPositions [testOpenRound mint ("open-sig:" ++ mint)] fun _ => none),
    .synced .loadPending, .synced (.loadLegs true 20), .synced (.insertRow (.ok 7))]

/-- A sync of another mint, an open, and a second one of the same mint that finds it held. -/
def orderlyRun : List OpeningEvent :=
  importRun "HELD" ++ buyRun 1 ++ registerRun 1 ++ [.asked 2 handOpening, .entered 2] ++
    [.proceeded 2 fairAnswers, .left 2]

lemma tidy_created (maxOpen : ℕ) : Tidy (.created maxOpen) where
  timed := ⟨fun _ hrow => (by cases hrow), fun _ _ hrow => (by cases hrow)⟩
  rows := fun _ => Nat.zero_le 1

/-- Two opens of a mint one after the other leave it with one row. -/
theorem unique_of_apart_orderlyRun :
    (orderlyRun.foldl Openings.step (.started (.created 5))).Unique := by
  refine unique_of_apart _ (tidy_created 5) orderlyRun ?_
  refine ⟨trivial, trivial, trivial, ?_, ?_, trivial, trivial, trivial, trivial, trivial, trivial,
    trivial, trivial, trivial, trivial, trivial, ?_, trivial, trivial, trivial, trivial⟩
  · intro _
    refine ⟨rfl, ?_⟩
    rintro ⟨_, _, ⟨⟩, -⟩
  · rintro _ task lock ⟨⟩
  · rintro ⟨⟩

/-- The sync imports the buy before its row is registered; and a position that is deleted takes the
lock of its mint with it. -/
theorem not_unique :
    (¬ ∀ (run : List OpeningEvent) (mint : String),
      openRows (run.foldl Openings.step (.started (.created 5))).positions mint ≤ 1) ∧
    ¬ ∀ (run : List OpeningEvent) (task task' : ℕ) (mint : String),
      (run.foldl Openings.step (.started (.created 5))).registry.within task = some mint →
      (run.foldl Openings.step (.started (.created 5))).registry.within task' = some mint →
      task = task' := by
  constructor
  · intro h
    have hrows : openRows ((buyRun 1 ++ importRun "MINT" ++ registerRun 1).foldl Openings.step
        (.started (.created 5))).positions "MINT" = 2 := rfl
    have hone := h (buyRun 1 ++ importRun "MINT" ++ registerRun 1) "MINT"
    omega
  · intro h
    have hsame := h (buyRun 1 ++ registerRun 1 ++ [.requested 2 "MINT", .entered 2,
      .deleted 2 (.ok ()), .requested 3 "MINT", .entered 3]) 2 3 "MINT" rfl rfl
    omega

end Dripline.Positions.Ledger
