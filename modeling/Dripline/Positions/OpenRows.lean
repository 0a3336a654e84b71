import Dripline.Positions.Operations

/-!
# The row of an open

`positions/database/operations.rs`, `convenience.rs` and `tracking.rs`: a position that was just
opened is inserted and its state recorded, in two statements; `persist_position_with_retry` runs
both again when either fails.

* `OneRow`, `oneRow_iff` — the open leaves one row exactly when no attempt inserts a row it does not
  record.
-/

namespace Dripline.Positions

open List

/-! ## The tables -/

/-- Source: `database/types.rs` -/
inductive PositionState
  | «open» | closing | closed | exitPending | exitFailed | phantom | reconciling

/-- A row of `positions`. Source: `database/types.rs`, `SCHEMA_POSITIONS` -/
structure PositionRow where
  id : ℤ
  chainId : String
  walletAddress : String
  position : Position

/-- The columns an update writes: all but who opened the position, who manages it, and the archive.
Source: `database/operations.rs`, `update_position` -/
def PositionRow.updated (row : PositionRow) (position : Position) : PositionRow :=
  { row with position :=
      { position with
        origin := row.position.origin
        management := row.position.management
        archived := row.position.archived
        archivedAt := row.position.archivedAt } }

/-- A row of `position_states`. Source: `database/types.rs`, `SCHEMA_POSITION_STATES` -/
structure StateRow where
  positionId : ℤ
  state : PositionState
  changedAt : DateTime
  reason : Option String

/-- The two tables; an id that was given is never given again (`AUTOINCREMENT`). -/
structure PositionsTables where
  positions : List PositionRow
  states : List StateRow
  lastId : ℤ
  id_le : ∀ row ∈ positions, row.id ≤ lastId

/-- What the statements of one attempt at saving a position come back with, and when it is. -/
structure SaveAttempt where
  initialised : Bool
  connection : Except String Unit
  wallet : Except String String
  insert : Except String Unit
  stateConnection : Except String Unit
  recordState : Except String Unit
  update : Except String Unit
  now : DateTime

/-! ## Texts -/

/-- Source: `database/operations.rs`, `get_connection`, and the texts of its error -/
def connectionFailed (detail : String) : String :=
  "database connection error: failed to get positions database connection: " ++ detail

/-- Source: `errors/database.rs`, the text of `Query` -/
def queryFailed (operation message : String) : String :=
  "database query error (op=" ++ operation ++ "): " ++ message

/-- Source: `positions/error.rs`, the text of `WalletUnavailable` -/
def walletUnavailable (detail : String) : String :=
  "could not resolve the active wallet address: " ++ detail

/-- What the database says of a round key that is taken. -/
def roundKeyTaken : String :=
  "UNIQUE constraint failed: positions.chain_id, positions.wallet_address, positions.round_key"

namespace PositionsTables

variable (tables : PositionsTables)

/-! ## Statements -/

/-- Another row of the chain and the wallet has the round key. Source: `database/types.rs`,
`idx_positions_round_key` -/
def isTaken (chain wallet : String) (own : Option ℤ) (roundKey : Option String) : Bool :=
  roundKey.isSome && tables.positions.any fun row =>
    row.chainId == chain && row.walletAddress == wallet && row.position.roundKey == roundKey &&
      some row.id != own

/-- A row more, under the next id. -/
def withRow (chain wallet : String) (position : Position) : PositionsTables where
  positions := tables.positions ++ [⟨tables.lastId + 1, chain, wallet, position⟩]
  states := tables.states
  lastId := tables.lastId + 1
  id_le := by
      intro row hrow
      rcases mem_append.mp hrow with hrow | hrow
      · have := tables.id_le row hrow
        omega
      · obtain rfl := mem_singleton.mp hrow
        exact le_rfl

/-- A state more. -/
def withState (state : StateRow) : PositionsTables :=
  { tables with states := tables.states ++ [state] }

/-- Source: `database/tracking.rs` -/
def recordStateChange (positionId : ℤ) (state : PositionState) (reason : Option String)
    (attempt : SaveAttempt) : PositionsTables × Except String Unit :=
  match attempt.stateConnection with
  | .error detail => (tables, .error (connectionFailed detail))
  | .ok _ =>
    match attempt.recordState with
    | .error message => (tables, .error (queryFailed "record state change" message))
    | .ok _ => (tables.withState ⟨positionId, state, attempt.now, reason⟩, .ok ())

/-- Source: `database/operations.rs` -/
def insertPosition (chain : String) (position : Position) (attempt : SaveAttempt) :
    PositionsTables × Except String ℤ :=
  match attempt.connection, attempt.wallet with
  | .error detail, _ => (tables, .error (connectionFailed detail))
  | .ok _, .error detail => (tables, .error (walletUnavailable detail))
  | .ok _, .ok wallet =>
    if tables.isTaken chain wallet none position.roundKey then
      (tables, .error (queryFailed "insert_position" roundKeyTaken))
    else
      match attempt.insert with
      | .error message => (tables, .error (queryFailed "insert_position" message))
      | .ok _ =>
        let inserted := tables.withRow chain wallet position
        match inserted.recordStateChange inserted.lastId .open (some "Position created")
            attempt with
        | (recorded, .error message) => (recorded, .error message)
        | (recorded, .ok _) => (recorded, .ok inserted.lastId)

/-- Source: `database/operations.rs` -/
def updatePosition (chain : String) (id : ℤ) (position : Position) (attempt : SaveAttempt) :
    PositionsTables × Except String Unit :=
  match attempt.connection, attempt.update with
  | .error detail, _ => (tables, .error (connectionFailed detail))
  | .ok _, .error message => (tables, .error (queryFailed "update_position" message))
  | .ok _, .ok _ =>
    match tables.positions.find? fun row => row.id == id && row.chainId == chain with
    | none => (tables, .error ("no position with id " ++ toString id))
    | some found =>
      if tables.isTaken chain found.walletAddress (some id) position.roundKey then
        (tables, .error (queryFailed "update_position" roundKeyTaken))
      else
        ({ tables with
            positions := tables.positions.map fun row =>
              if row.id == id && row.chainId == chain then row.updated position
              else row
            id_le := by
                intro row hrow
                obtain ⟨old, hold, rfl⟩ := mem_map.mp hrow
                have hle := tables.id_le old hold
                split
                · exact hle
                · exact hle },
          .ok ())

/-- Source: `database/convenience.rs` -/
def savePosition (chain : String) (position : Position) (attempt : SaveAttempt) :
    PositionsTables × Except String ℤ :=
  if attempt.initialised then
    match position.id with
    | some id =>
      match tables.updatePosition chain id position attempt with
      | (updated, .error message) => (updated, .error message)
      | (updated, .ok _) => (updated, .ok id)
    | none => tables.insertPosition chain position attempt
  else (tables, .error "the positions database is not initialised")

/-! ## Attempts -/

/-- The attempts that are left, up to the first that succeeds; the last failure is fatal.
Source: `operations/mod.rs`, `persist_position_with_retry` -/
def persistRows (chain : String) (position : Position) :
    List SaveAttempt → PositionsTables → PositionsTables × Except OperationError ℤ
  | [], tables =>
    (tables, .error (.fatal
      ("Critical: failed to persist position for mint " ++ position.mint ++ " after " ++
        toString positionSaveMaxRetries ++ " attempts. Manual intervention required.")))
  | attempt :: attempts, tables =>
    match tables.savePosition chain position attempt with
    | (tables, .ok id) => (tables, .ok id)
    | (tables, .error _) => persistRows chain position attempts tables

end PositionsTables

open PositionsTables

/-! ## One attempt at a new position -/

private lemma isOk_iff {α : Type} {answer : Except String α} :
    answer.isOk = true ↔ ∃ value, answer = .ok value := by
  cases answer with
  | error message | ok value => simp [Except.isOk, Except.toBool]

namespace SaveAttempt

variable (attempt : SaveAttempt)

/-- The row is inserted. -/
def Inserts : Prop :=
  attempt.initialised = true ∧ attempt.connection.isOk = true ∧ attempt.wallet.isOk = true ∧
    attempt.insert.isOk = true

/-- The state is recorded, once there is a row. -/
def Records : Prop :=
  attempt.stateConnection.isOk = true ∧ attempt.recordState.isOk = true

instance : Decidable attempt.Inserts := inferInstanceAs (Decidable (_ ∧ _ ∧ _ ∧ _))

instance : Decidable attempt.Records := inferInstanceAs (Decidable (_ ∧ _))

/-- A row without its state: the insert goes through, and the record does not. -/
def Strays : Prop := attempt.Inserts ∧ ¬ attempt.Records

instance : Decidable attempt.Strays := inferInstanceAs (Decidable (_ ∧ _))

end SaveAttempt

/-- A position that has no id yet and no round key, as an open makes them. -/
structure Position.IsNew (position : Position) : Prop where
  id : position.id = none
  roundKey : position.roundKey = none

lemma isNew_openedPosition (mint symbol name signature : String) (entryPrice tradeSizeSol : ℚ)
    (origin : PositionOrigin) (management : PositionManagement) (now : DateTime) :
    (openedPosition none mint symbol name signature entryPrice tradeSizeSol origin management
      now).IsNew :=
  ⟨rfl, rfl⟩

section NewPosition

variable {position : Position} {attempt : SaveAttempt} (chain : String) (tables : PositionsTables)

lemma savePosition_of_not_inserts (hnew : position.IsNew) (hinserts : ¬ attempt.Inserts) :
    ∃ message, tables.savePosition chain position attempt = (tables, .error message) := by
  unfold savePosition
  split
  case isFalse => exact ⟨_, rfl⟩
  case isTrue hinitialised =>
    rw [hnew.id]
    dsimp only
    unfold insertPosition
    split
    case h_1 => exact ⟨_, rfl⟩
    case h_2 => exact ⟨_, rfl⟩
    case h_3 hconnection hwallet =>
      rw [hnew.roundKey]
      simp only [isTaken, Option.isSome_none, Bool.false_and, Bool.false_eq_true, if_false]
      cases hinsert : attempt.insert with
      | error message => exact ⟨_, rfl⟩
      | ok _ =>
        exact absurd ⟨hinitialised, isOk_iff.mpr ⟨_, hconnection⟩, isOk_iff.mpr ⟨_, hwallet⟩,
          isOk_iff.mpr ⟨_, hinsert⟩⟩ hinserts

lemma savePosition_of_inserts (hnew : position.IsNew) (hinserts : attempt.Inserts) :
    ∃ wallet, tables.savePosition chain position attempt =
      match (tables.withRow chain wallet position).recordStateChange (tables.lastId + 1) .open
          (some "Position created") attempt with
      | (recorded, .error message) => (recorded, .error message)
      | (recorded, .ok _) => (recorded, .ok (tables.lastId + 1)) := by
  obtain ⟨hinitialised, hconnection, hwallet, hinsert⟩ := hinserts
  obtain ⟨_, hconnection⟩ := isOk_iff.mp hconnection
  obtain ⟨wallet, hwallet⟩ := isOk_iff.mp hwallet
  obtain ⟨_, hinsert⟩ := isOk_iff.mp hinsert
  refine ⟨wallet, ?_⟩
  unfold savePosition
  rw [if_pos hinitialised, hnew.id]
  dsimp only
  unfold insertPosition
  rw [hconnection, hwallet, hinsert, hnew.roundKey]
  rfl

lemma savePosition_of_strays (hnew : position.IsNew) (hstrays : attempt.Strays) :
    ∃ wallet message, tables.savePosition chain position attempt =
      (tables.withRow chain wallet position, .error message) := by
  obtain ⟨wallet, hsaved⟩ := savePosition_of_inserts chain tables hnew hstrays.1
  rw [hsaved]
  unfold recordStateChange
  cases hconnection : attempt.stateConnection with
  | error detail => exact ⟨_, _, rfl⟩
  | ok _ =>
    cases hrecord : attempt.recordState with
    | error message => exact ⟨_, _, rfl⟩
    | ok _ =>
      exact absurd ⟨isOk_iff.mpr ⟨_, hconnection⟩, isOk_iff.mpr ⟨_, hrecord⟩⟩ hstrays.2

lemma savePosition_of_records (hnew : position.IsNew) (hinserts : attempt.Inserts)
    (hrecords : attempt.Records) :
    ∃ wallet, tables.savePosition chain position attempt =
      ((tables.withRow chain wallet position).withState
          ⟨tables.lastId + 1, .open, attempt.now, some "Position created"⟩,
        .ok (tables.lastId + 1)) := by
  obtain ⟨wallet, hsaved⟩ := savePosition_of_inserts chain tables hnew hinserts
  obtain ⟨_, hconnection⟩ := isOk_iff.mp hrecords.1
  obtain ⟨_, hrecord⟩ := isOk_iff.mp hrecords.2
  refine ⟨wallet, ?_⟩
  rw [hsaved]
  unfold recordStateChange
  rw [hconnection, hrecord]

end NewPosition

/-! ## A whole open -/

/-- The attempts before the first that inserts and records. -/
def beforeSaved (attempts : List SaveAttempt) : List SaveAttempt :=
  attempts.takeWhile fun attempt => ¬ (attempt.Inserts ∧ attempt.Records)

/-- The rows an open leaves when it returns: one for each attempt that strayed, and the one it
returns, which has its state. -/
structure Opened (before after : PositionsTables) (position : Position) (strays : ℕ) (id : ℤ) :
    Prop where
  rows : ∃ added row, after.positions = before.positions ++ added ++ [row] ∧
    added.length = strays ∧ row.id = id ∧ row.position = position ∧
    ∀ stray ∈ added, stray.position = position
  recorded : ∃ state ∈ after.states, state.positionId = id ∧ state.state = .open
  isFresh : before.lastId < id

lemma Opened.of_withRow {before after : PositionsTables} {chain wallet : String}
    {position : Position} {strays : ℕ} {id : ℤ}
    (h : Opened (before.withRow chain wallet position) after position strays id) :
    Opened before after position (strays + 1) id := by
  obtain ⟨added, row, hafter, hlength, hid, hposition, hadded⟩ := h.rows
  refine ⟨⟨⟨before.lastId + 1, chain, wallet, position⟩ :: added, row, ?_, ?_, hid, hposition, ?_⟩,
    h.recorded, ?_⟩
  · rw [hafter]
    simp [withRow]
  · rw [length_cons, hlength]
  · intro stray hstray
    rcases mem_cons.mp hstray with rfl | hstray
    · rfl
    · exact hadded stray hstray
  · have := h.isFresh
    simp only [withRow] at this
    omega

lemma opened_of_persistRows {chain : String} {position : Position} (hnew : position.IsNew)
    {attempts : List SaveAttempt} {tables after : PositionsTables} {id : ℤ}
    (hpersist : persistRows chain position attempts tables = (after, .ok id)) :
    Opened tables after position ((beforeSaved attempts).countP fun attempt => attempt.Strays) id := by
  induction attempts generalizing tables with
  | nil => cases hpersist
  | cons attempt attempts ih =>
    unfold persistRows at hpersist
    by_cases hinserts : attempt.Inserts
    · by_cases hrecords : attempt.Records
      · obtain ⟨wallet, hsaved⟩ := savePosition_of_records chain tables hnew hinserts hrecords
        rw [hsaved] at hpersist
        cases hpersist
        have hfirst : beforeSaved (attempt :: attempts) = [] := by
          simp [beforeSaved, hinserts, hrecords]
        rw [hfirst]
        refine ⟨⟨[], ⟨tables.lastId + 1, chain, wallet, position⟩, ?_, rfl, rfl, rfl, by simp⟩,
          ⟨_, mem_append_right _ (mem_singleton_self _), rfl, rfl⟩, by simp⟩
        simp [withState, withRow]
      · obtain ⟨wallet, message, hsaved⟩ :=
            savePosition_of_strays chain tables hnew ⟨hinserts, hrecords⟩
        rw [hsaved] at hpersist
        have hcount : ((beforeSaved (attempt :: attempts)).countP fun attempt => attempt.Strays) =
            ((beforeSaved attempts).countP fun attempt => attempt.Strays) + 1 := by
          simp [beforeSaved, SaveAttempt.Strays, hinserts, hrecords]
        rw [hcount]
        exact (ih hpersist).of_withRow
    · obtain ⟨message, hsaved⟩ := savePosition_of_not_inserts chain tables hnew hinserts
      rw [hsaved] at hpersist
      have hcount : ((beforeSaved (attempt :: attempts)).countP fun attempt => attempt.Strays) =
          ((beforeSaved attempts).countP fun attempt => attempt.Strays) := by
        simp [beforeSaved, SaveAttempt.Strays, hinserts]
      rw [hcount]
      exact ih hpersist

/-- One row more, of the position and with the id that was returned, and an open state of that
id. -/
structure OneRow (before after : PositionsTables) (position : Position) (id : ℤ) : Prop where
  row : ∃ row, after.positions = before.positions ++ [row] ∧ row.id = id ∧ row.position = position
  recorded : ∃ state ∈ after.states, state.positionId = id ∧ state.state = .open

/-- **One row per open**: an open that returns leaves exactly one row, with its id and its state,
exactly when no attempt before the one that succeeds inserts a row whose state is not recorded. -/
theorem oneRow_iff (chain mint symbol name signature : String) (entryPrice tradeSizeSol : ℚ)
    (origin : PositionOrigin) (management : PositionManagement) (now : DateTime)
    (attempts : Fin positionSaveMaxRetries → SaveAttempt) (tables after : PositionsTables) (id : ℤ)
    (hreturns : persistRows chain
      (openedPosition none mint symbol name signature entryPrice tradeSizeSol origin management now)
      (List.ofFn attempts) tables = (after, .ok id)) :
    OneRow tables after
        (openedPosition none mint symbol name signature entryPrice tradeSizeSol origin management now)
        id ↔
      ∀ attempt ∈ beforeSaved (List.ofFn attempts), ¬ attempt.Strays := by
  have hopened := opened_of_persistRows (isNew_openedPosition mint symbol name signature entryPrice
    tradeSizeSol origin management now) hreturns
  obtain ⟨added, row, hafter, hlength, hid, hposition, -⟩ := hopened.rows
  have hcount : added.length = 0 ↔
      ∀ attempt ∈ beforeSaved (List.ofFn attempts), ¬ attempt.Strays := by
    rw [hlength, countP_eq_zero]
    simp
  rw [← hcount]
  constructor
  · intro hone
    obtain ⟨only, honly, -⟩ := hone.row
    have := congrArg List.length (hafter.symm.trans honly)
    simp only [length_append, length_singleton] at this
    omega
  · intro hnone
    rw [length_eq_zero_iff.mp hnone, append_nil] at hafter
    exact ⟨⟨row, hafter, hid, hposition⟩, hopened.recorded⟩

/-! ### A lock between the statements -/

/-- An attempt whose statements all go through. -/
def saved : SaveAttempt where
  initialised := true
  connection := .ok ()
  wallet := .ok "WALLET"
  insert := .ok ()
  stateConnection := .ok ()
  recordState := .ok ()
  update := .ok ()
  now := 0

/-- The state of the first row meets a lock; the second attempt goes through. -/
def lockedOnce : Fin positionSaveMaxRetries → SaveAttempt := fun n =>
  if n.val = 0 then { saved with recordState := .error "database is locked" } else saved

/-- No positions yet. -/
def noPositions : PositionsTables := ⟨[], [], 0, by simp⟩

/-- The first attempt goes through. -/
theorem oneRow_iff_saved :
    OneRow noPositions
        (persistRows "solana"
          (openedPosition none "MINT" "TOK" "Token" "open-sig" 2 2 .manual .userOnly 0)
          (List.ofFn fun _ : Fin positionSaveMaxRetries => saved) noPositions).1
        (openedPosition none "MINT" "TOK" "Token" "open-sig" 2 2 .manual .userOnly 0) 1 ↔
      ∀ attempt ∈ beforeSaved (List.ofFn fun _ : Fin positionSaveMaxRetries => saved),
        ¬ attempt.Strays :=
  oneRow_iff "solana" "MINT" "TOK" "Token" "open-sig" 2 2 .manual .userOnly 0 (fun _ => saved)
    noPositions _ 1 rfl

/-- A lock between the two statements, and the position is there twice. -/
theorem not_oneRow :
    ¬ ∀ (attempts : Fin positionSaveMaxRetries → SaveAttempt) (tables after : PositionsTables)
        (id : ℤ),
      persistRows "solana"
          (openedPosition none "MINT" "TOK" "Token" "open-sig" 2 2 .manual .userOnly 0)
          (List.ofFn attempts) tables = (after, .ok id) →
        OneRow tables after
          (openedPosition none "MINT" "TOK" "Token" "open-sig" 2 2 .manual .userOnly 0) id := by
  intro h
  obtain ⟨row, hrows, -⟩ := (h lockedOnce noPositions _ 2 rfl).row
  have htwo := congrArg List.length hrows
  simp [noPositions, withRow, withState] at htwo

end Dripline.Positions
