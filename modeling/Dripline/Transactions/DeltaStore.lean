import Dripline.Found.Pages
import Dripline.Transactions.Extract

/-!
# The delta ledger's tables

`transactions/database/deltas.rs` over its three tables: the cached transactions, the rows extracted
from them, and the version of the last backfill.

* `DeltaLedger.storeSubjectDeltas`, `DeltaLedger.storeTransactionDeltas` — rows in; a row may be
  skipped.
* `DeltaLedger.backfillSubjectDeltas` — every cached transaction of a wallet, once a version.
* `DeltaLedger.fillSubjectDeltaGaps` — the ones at or above the newest stored slot that have no row.

What the database answers is an argument of an operation; a process that stops in a pass gives no
answer for the pages that are left.

A source without a file is in `transactions/database/deltas.rs`.
-/

namespace Dripline.Transactions

open Dripline.Found.Pages

/-! ## Rows -/

/-- A cached reply, no JSON or JSON. -/
inductive RawBlob
  | text
  | json (value : RawJson)
  deriving DecidableEq

/-- A row of `raw_transactions`, as far as the passes read it. Source:
`transactions/database/schema.rs`, `raw_transactions` -/
structure RawTransaction where
  walletAddress : String
  signature : String
  slot : Option ℤ
  blockTime : Option ℤ
  success : Bool
  rawTransactionData : Option RawBlob
  deriving DecidableEq

/-- A row whose reply is no JSON is no transaction. Source: `cached_row_to_transaction` -/
def cachedRowToTransaction (row : RawTransaction) : Option Transaction :=
  match row.rawTransactionData with
  | some (.json value) =>
    some { signature := row.signature, success := row.success, rawTransactionData := some value
           slot := row.slot.bind Int.toNat?, blockTime := row.blockTime }
  | _ => none

/-- What is extracted from a cached transaction for its wallet. -/
def RawTransaction.deltas (row : RawTransaction) : List SubjectAssetDelta :=
  (cachedRowToTransaction row).elim [] (extractSubjectDeltas row.walletAddress)

/-- Two rows are of one transaction of one wallet. Source: `raw_transactions`, its primary key -/
def RawTransaction.SameKey (row other : RawTransaction) : Prop :=
  row.walletAddress = other.walletAddress ∧ row.signature = other.signature

instance (row other : RawTransaction) : Decidable (row.SameKey other) := instDecidableAnd

/-- A row of `subject_asset_deltas`: a change that is no `i64` is not stored, a balance that is none
is left out. Source: `insert_subject_delta` -/
def SubjectAssetDelta.toRow (delta : SubjectAssetDelta) : Option SubjectAssetDelta :=
  if -(2 ^ 63) ≤ delta.deltaRaw ∧ delta.deltaRaw < 2 ^ 63 then
    some { delta with
      beforeRaw := delta.beforeRaw.filter (· < 2 ^ 63)
      afterRaw := delta.afterRaw.filter (· < 2 ^ 63) }
  else none

/-- Two rows are of one mint in one transaction of one wallet. Source: `subject_asset_deltas`, its
primary key -/
def SubjectAssetDelta.SameKey (delta other : SubjectAssetDelta) : Prop :=
  delta.walletAddress = other.walletAddress ∧ delta.signature = other.signature ∧
    delta.mint = other.mint

instance (delta other : SubjectAssetDelta) : Decidable (delta.SameKey other) := instDecidableAnd

/-! ## The ledger -/

/-- The cached transactions, their rows, and the version the rows were last rebuilt for. -/
structure DeltaLedger where
  rawTransactions : List RawTransaction
  subjectAssetDeltas : List SubjectAssetDelta
  backfillVersion : Option String

/-- Source: `transactions/error.rs`, `Error` -/
inductive DeltaError
  | database (detail : String)
  | deltaBackfill (detail : String)
  deriving DecidableEq

/-- The answer to a batch of inserts: it is not committed, or it is without the rows of some mints
of some transactions. -/
inductive Written
  | failed (detail : String)
  | stored (skipped : List (String × String))

/-- Source: `insert_subject_delta`; a row that fails is skipped by `store_subject_deltas` -/
def insertSubjectDelta (skipped : List (String × String)) (rows : List SubjectAssetDelta)
    (delta : SubjectAssetDelta) : List SubjectAssetDelta :=
  if (delta.signature, delta.mint) ∈ skipped then rows
  else
    match delta.toRow with
    | some row => rows.filter (fun stored => ¬stored.SameKey row) ++ [row]
    | none => rows

namespace DeltaLedger

variable (ledger : DeltaLedger)

/-- Source: `transactions/database/operations_queries.rs` -/
def storeRawTransaction (row : RawTransaction) : DeltaLedger :=
  { ledger with
    rawTransactions := ledger.rawTransactions.filter (fun stored => ¬stored.SameKey row) ++ [row] }

/-- Source: `store_subject_deltas` -/
def storeSubjectDeltas (deltas : List SubjectAssetDelta) (written : Written) :
    Except DeltaError Unit × DeltaLedger :=
  if deltas.isEmpty then (.ok (), ledger)
  else
    match written with
    | .failed detail => (.error (.database detail), ledger)
    | .stored skipped =>
      (.ok (), { ledger with
        subjectAssetDeltas := deltas.foldl (insertSubjectDelta skipped) ledger.subjectAssetDeltas })

/-- Source: `store_transaction_deltas` -/
def storeTransactionDeltas (row : RawTransaction) (written : Written) :
    Except DeltaError ℕ × DeltaLedger :=
  let stored := ledger.storeSubjectDeltas row.deltas written
  (stored.1.map fun _ => row.deltas.length, stored.2)

end DeltaLedger

/-! ## Passes -/

/-- A pass has stopped with its process, has failed, or has returned a count. -/
inductive Returned
  | stopped
  | failed (error : DeltaError)
  | ok (count : ℕ)
  deriving DecidableEq

/-- The step of a page's query that failed. -/
inductive QueryFailure
  | connection (cause : String)
  | prepare (cause : String)
  | execute (cause : String)
  | row (cause : String)

/-- The step of a single statement that failed. -/
inductive StatementFailure
  | connection (cause : String)
  | execute (cause : String)

/-- A failed statement as the pass reports it. -/
def StatementFailure.error (operation : String) : StatementFailure → DeltaError
  | .connection cause => .database cause
  | .execute cause => .deltaBackfill s!"failed to {operation}: {cause}"

/-- The answers for a page: it is not read, or it is and its rows are written. -/
inductive PageAnswer
  | unread (failure : QueryFailure)
  | read (written : Written)

/-- Rows read for a page. Source: `BACKFILL_BATCH_SIZE` -/
def backfillBatchSize : ℕ := 500

/-- Source: `transactions/deltas.rs` -/
def subjectDeltasVersion : ℕ := 2

/-- Source: `backfill_subject_deltas` -/
def backfillFailure : QueryFailure → DeltaError
  | .connection cause => .database cause
  | .prepare cause => .deltaBackfill s!"failed to prepare subject deltas backfill query: {cause}"
  | .execute cause => .deltaBackfill s!"failed to execute subject deltas backfill query: {cause}"
  | .row cause => .deltaBackfill s!"failed to read backfill row: {cause}"

/-- Source: `fill_subject_delta_gaps` -/
def gapFailure : QueryFailure → DeltaError
  | .connection cause => .database cause
  | .prepare cause => .deltaBackfill s!"failed to prepare subject deltas gap query: {cause}"
  | .execute cause => .deltaBackfill s!"failed to execute subject deltas gap query: {cause}"
  | .row cause => .deltaBackfill s!"failed to read gap row: {cause}"

/-- The answers to a backfill: reading the version, each page, and writing the version, which a
process that stops does not come to. -/
structure BackfillAnswers where
  version : Except StatementFailure Unit
  pages : List PageAnswer
  marked : Option (Except StatementFailure Unit)

/-- The answers to a gap fill: reading the newest slot, and each page. -/
structure GapAnswers where
  watermark : Except StatementFailure Unit
  pages : List PageAnswer

namespace DeltaLedger

variable (ledger : DeltaLedger)

/-- The cached transactions of a wallet that have a reply, by signature. -/
def cachedRows (walletAddress : String) : List RawTransaction :=
  sorted (·.signature) (ledger.rawTransactions.filter fun row =>
    row.walletAddress = walletAddress ∧ row.rawTransactionData.isSome)

/-- Pages of the cached transactions by offset, until one is short. Source:
`backfill_subject_deltas` -/
def backfillPages (walletAddress : String) :
    List PageAnswer → DeltaLedger → (offset totalDeltas : ℕ) → Returned × DeltaLedger
  | [], ledger, _, _ => (.stopped, ledger)
  | .unread failure :: _, ledger, _, _ => (.failed (backfillFailure failure), ledger)
  | .read written :: pages, ledger, offset, totalDeltas =>
    let batch := ((ledger.cachedRows walletAddress).drop offset).take backfillBatchSize
    if batch.isEmpty then (.ok totalDeltas, ledger)
    else
      let batchDeltas := batch.flatMap (·.deltas)
      let total := totalDeltas + batchDeltas.length
      match ledger.storeSubjectDeltas batchDeltas written with
      | (.error error, stored) => (.failed error, stored)
      | (.ok _, stored) =>
        if batch.length < backfillBatchSize then (.ok total, stored)
        else backfillPages walletAddress pages stored (offset + batch.length) total

/-- Every cached transaction of a wallet, unless a backfill of this version was done. Source:
`backfill_subject_deltas` -/
def backfillSubjectDeltas (walletAddress : String) (answers : BackfillAnswers) :
    Returned × DeltaLedger :=
  match answers.version with
  | .error failure => (.failed (failure.error "read subject deltas backfill version"), ledger)
  | .ok _ =>
    if ledger.backfillVersion = some (toString subjectDeltasVersion) then (.ok 0, ledger)
    else
      match backfillPages walletAddress answers.pages ledger 0 0 with
      | (.ok total, stored) =>
        match answers.marked with
        | none => (.stopped, stored)
        | some (.error failure) =>
          (.failed (failure.error "persist subject deltas backfill version"), stored)
        | some (.ok _) =>
          (.ok total, { stored with backfillVersion := some (toString subjectDeltasVersion) })
      | failed => failed

/-- The newest slot of a wallet's rows, or zero. Source: `fill_subject_delta_gaps` -/
def watermark (walletAddress : String) : ℕ :=
  (ledger.subjectAssetDeltas.filter (·.walletAddress == walletAddress)).foldl
    (fun newest delta => max newest (delta.slot.getD 0)) 0

/-- A transaction has a stored row. -/
def HasRow (row : RawTransaction) : Prop :=
  ∃ delta ∈ ledger.subjectAssetDeltas,
    delta.walletAddress = row.walletAddress ∧ delta.signature = row.signature

instance (row : RawTransaction) : Decidable (ledger.HasRow row) := List.decidableBEx _ _

/-- The gap query: a cached transaction of the wallet at or above the newest slot, behind the
cursor, without a row. -/
def isGap (walletAddress : String) (watermark : ℕ) (cursor : String) (row : RawTransaction) :
    Bool :=
  row.walletAddress == walletAddress && row.rawTransactionData.isSome &&
    row.slot.all ((watermark : ℤ) ≤ ·) && decide (cursor < row.signature) &&
    !decide (ledger.HasRow row)

/-- The transactions of the gap query, by signature. -/
def gapRows (walletAddress : String) (watermark : ℕ) (cursor : String) : List RawTransaction :=
  sorted (·.signature)
    (ledger.rawTransactions.filter (ledger.isGap walletAddress watermark cursor))

/-- Pages of the gap query by signature, until one is short. Source: `fill_subject_delta_gaps` -/
def gapPages (walletAddress : String) (watermark : ℕ) :
    List PageAnswer → DeltaLedger → (cursor : String) → (repaired : ℕ) → Returned × DeltaLedger
  | [], ledger, _, _ => (.stopped, ledger)
  | .unread failure :: _, ledger, _, _ => (.failed (gapFailure failure), ledger)
  | .read written :: pages, ledger, cursor, repaired =>
    let batch := (ledger.gapRows walletAddress watermark cursor).take backfillBatchSize
    match batch.getLast? with
    | none => (.ok repaired, ledger)
    | some last =>
      let batchDeltas := batch.flatMap (·.deltas)
      let found := repaired + batch.countP (!·.deltas.isEmpty)
      match ledger.storeSubjectDeltas batchDeltas written with
      | (.error error, stored) => (.failed error, stored)
      | (.ok _, stored) =>
        if batch.length < backfillBatchSize then (.ok found, stored)
        else gapPages walletAddress watermark pages stored last.signature found

/-- The recent transactions of a wallet that have no row. Source: `fill_subject_delta_gaps` -/
def fillSubjectDeltaGaps (walletAddress : String) (answers : GapAnswers) :
    Returned × DeltaLedger :=
  match answers.watermark with
  | .error failure => (.failed (failure.error "read subject deltas watermark"), ledger)
  | .ok _ => gapPages walletAddress (ledger.watermark walletAddress) answers.pages ledger "" 0

end DeltaLedger

/-! ## Runs -/

/-- A transaction is recorded, its reply cached or not, and its rows are written unless the process
stops before or the wallet is not the bot's own; a pass is run. -/
inductive LedgerEvent
  | recorded (row : RawTransaction) (cached : Bool) (written : Option Written)
  | backfilled (walletAddress : String) (answers : BackfillAnswers)
  | filled (walletAddress : String) (answers : GapAnswers)

/-- Source: `chains/solana/transactions/processor/core.rs`, `process_transaction`, and
`wallets/watch/recorder.rs`, `record`; a failure to write the rows is only logged -/
def DeltaLedger.record (ledger : DeltaLedger) (row : RawTransaction) (cached : Bool)
    (written : Option Written) : DeltaLedger :=
  let stored := if cached then ledger.storeRawTransaction row else ledger
  match written with
  | some written => (stored.storeTransactionDeltas row written).2
  | none => stored

/-- One event; a restart leaves the tables as they are. -/
def DeltaLedger.step (ledger : DeltaLedger) : LedgerEvent → DeltaLedger
  | .recorded row cached written => ledger.record row cached written
  | .backfilled walletAddress answers => (ledger.backfillSubjectDeltas walletAddress answers).2
  | .filled walletAddress answers => (ledger.fillSubjectDeltaGaps walletAddress answers).2

/-- The tables of a new install. -/
def DeltaLedger.empty : DeltaLedger := ⟨[], [], none⟩

end Dripline.Transactions
