import Dripline.Found.Feed
import Dripline.Wallets.Funnel

/-!
# The history of the own wallet

The bootstrap of `transactions/service/bootstrap.rs` over the tables it reads and writes, and the
live recordings between two of them.

* `History` — the signatures on chain, the tables, and what the process remembers.
* `collect` — the pages of signatures, down to the checkpoint or the end of the chain.
* `toProcess` — those that are not known.
* `Completion`, `finish` — what came of them, and the full history marked.
* `bootstrap`, `stream` — a bootstrap and a live recording.

What the chain and the database answer, and in which order transactions complete, is an argument of
an operation; a process that stops gives no answer for the rest.

A source without a file is in `transactions/database/bootstrap.rs`.
-/

namespace Dripline.Transactions

open Dripline.Found.Feed Dripline.Wallets

/-- A row of `known_signatures`, with its time in seconds. Source:
`transactions/database/schema.rs`, `known_signatures` -/
structure KnownSignature where
  walletAddress : String
  signature : String
  addedAt : ℕ

/-- Source: `BootstrapState` -/
structure BootstrapState where
  backfillBeforeCursor : Option String
  fullHistoryCompleted : Bool

/-- The signatures of each wallet on chain, newest first; the main wallet; the rows that are stored,
by wallet and signature; the known signatures, the row of `bootstrap_state`; and the signatures the
process remembers. -/
structure History where
  chain : String → List String
  wallet : String
  rawTransactions : List (String × String)
  processedTransactions : List (String × String)
  knownSignatures : List KnownSignature
  bootstrapState : Option BootstrapState
  globalKnownSignatures : List (String × String)

/-- Signatures of a page. Source: `transactions/utils.rs` -/
def rpcBatchSize : ℕ := 1000

/-- Retries of a transaction that failed. Source: `transactions/service/config.rs`,
`MAX_RETRY_ATTEMPTS` -/
def maxRetryAttempts : ℕ := 3

/-- Source: `transactions/service/bootstrap.rs` -/
inductive BootstrapMode
  | full
  | incremental
  deriving DecidableEq

namespace History

variable (history : History)

/-! ## Known signatures -/

/-- Source: `transactions/database/operations.rs` -/
def isSignatureKnown (walletAddress signature : String) : Bool :=
  history.knownSignatures.any fun row =>
    row.walletAddress == walletAddress && row.signature == signature

/-- Source: `transactions/database/operations.rs` -/
def addKnownSignature (walletAddress signature : String) (now : ℕ) : History :=
  if history.isSignatureKnown walletAddress signature then history
  else { history with
    knownSignatures := history.knownSignatures ++ [⟨walletAddress, signature, now⟩] }

/-- The known signatures of a wallet that were added last. Source:
`transactions/database/operations.rs`, `get_newest_known_signature` -/
def newestKnown (walletAddress : String) : List KnownSignature :=
  let rows := history.knownSignatures.filter (·.walletAddress == walletAddress)
  rows.filter fun row => rows.all (·.addedAt ≤ row.addedAt)

/-- One of them; which of several the database picks is not said. Source:
`transactions/database/operations.rs`, `get_newest_known_signature` -/
def getNewestKnownSignature (walletAddress : String) (pick : ℕ) : Option String :=
  let rows := history.newestKnown walletAddress
  (rows[pick % rows.length]?).map (·.signature)

/-- Processed transactions become known. Source: `reconcile_known_with_processed` -/
def reconcileKnownWithProcessed (now : ℕ) : History :=
  history.processedTransactions.foldl
    (fun history row => history.addKnownSignature row.1 row.2 now) history

/-! ## Bootstrap state -/

/-- Source: `get_bootstrap_state` -/
def getBootstrapState : BootstrapState := history.bootstrapState.getD ⟨none, false⟩

/-- Source: `set_backfill_cursor` -/
def setBackfillCursor (cursor : Option String) : History :=
  { history with
    bootstrapState := some { history.getBootstrapState with backfillBeforeCursor := cursor } }

/-- Only a row that is there is updated. Source: `mark_full_history_completed` -/
def markFullHistoryCompleted : History :=
  { history with
    bootstrapState := history.bootstrapState.map fun state =>
      { state with fullHistoryCompleted := true } }

/-- A write that is refused is only logged. -/
def writing (written : Bool) (write : History → History) : History :=
  if written then write history else history

end History

/-! ## Collecting signatures -/

/-- The answers for a page: it is not fetched; it is, and its cursor is written. -/
inductive SignaturePage
  | failed (detail : String)
  | fetched (cursorWritten : Bool)

/-- What came of the pages: the process has stopped; a page was not fetched; the signatures, whether
the end of the chain was reached, and the last page's end. -/
inductive Collected
  | stopped
  | failed (detail : String)
  | ok (signatures : List String) (reachedChainEnd : Bool) (before : Option String)

/-- The pages of signatures, newest first: down to the checkpoint; without one the whole chain in a
full bootstrap, and one page in an incremental one. Source: `transactions/service/bootstrap.rs`,
`perform_initial_transaction_bootstrap` -/
def collect (mode : BootstrapMode) (checkpoint : Option String) :
    List SignaturePage → History → (before : Option String) → (allSignatures : List String) →
      Collected × History
  | [], history, _, _ => (.stopped, history)
  | .failed detail :: _, history, _, _ => (.failed detail, history)
  | .fetched cursorWritten :: pages, history, before, allSignatures =>
    let signatures := page rpcBatchSize before none (history.chain history.wallet)
    if signatures.isEmpty then (.ok allSignatures true before, history)
    else
      let all := allSignatures ++ newerThan checkpoint signatures
      if checkpoint.any (signatures.contains ·) then (.ok all false before, history)
      else if checkpoint.isNone && mode == .incremental then (.ok all false before, history)
      else
        let before := signatures.getLast?
        let history := history.writing (mode == .full && cursorWritten) (·.setBackfillCursor before)
        if signatures.length < rpcBatchSize then (.ok all (mode == .full) before, history)
        else collect mode checkpoint pages history before all

/-! ## Bootstrap -/

/-- What came of one attempt to process a transaction: the rows that are there after it, whether it
returned in time, and then whether it was made known, and when. -/
structure Completion where
  signature : String
  rawStored : Bool
  processedStored : Bool
  returned : Bool
  marked : Bool
  now : ℕ

/-- The answers to a bootstrap. `completions` are the attempts in the order they come back, over all
batches and retries. -/
structure BootstrapAnswers where
  reconciled : Option ℕ
  stateRead : Bool
  newestRead : Bool
  pick : ℕ
  pages : List SignaturePage
  knownRead : String → Bool
  completions : List Completion
  finished : Bool
  marked : Bool
  cursorWritten : Bool

/-- A bootstrap has stopped with its process, has failed, or has returned. -/
inductive Bootstrapped
  | stopped
  | failed (detail : String)
  | ok
  deriving DecidableEq

namespace History

variable (history : History)

/-- The mode and the checkpoint. Source: `transactions/service/bootstrap.rs` -/
def bootstrapMode (answers : BootstrapAnswers) : BootstrapMode × Option String :=
  if answers.stateRead && history.getBootstrapState.fullHistoryCompleted then
    (.incremental,
      if answers.newestRead then history.getNewestKnownSignature history.wallet answers.pick else none)
  else (.full, none)

/-- The process remembers a signature, or the database knows it; a failed query is a no. Source:
`transactions/service/bootstrap.rs`, phase 2 -/
def isKnown (knownRead : String → Bool) (signature : String) : Bool :=
  history.globalKnownSignatures.contains (history.wallet, signature) ||
    knownRead signature && history.isSignatureKnown history.wallet signature

/-- The signatures that are not known; the others are remembered. Source:
`transactions/service/bootstrap.rs`, phase 2 -/
def filterKnown (knownRead : String → Bool) (signatures : List String) : List String × History :=
  (signatures.filter (!history.isKnown knownRead ·),
    { history with
      globalKnownSignatures := history.globalKnownSignatures ++
        (signatures.filter (history.isKnown knownRead ·)).map (history.wallet, ·) })

/-- One write about a signature, as the funnel and the processor of transactions do it. -/
def deed (walletAddress signature : String) (now : ℕ) : Deed → History
  | .cached =>
    { history with rawTransactions := history.rawTransactions ++ [(walletAddress, signature)] }
  | .recorded =>
    { history with
      processedTransactions := history.processedTransactions ++ [(walletAddress, signature)] }
  | .committed => history.addKnownSignature walletAddress signature now
  | .remembered =>
    { history with
      globalKnownSignatures := history.globalKnownSignatures ++ [(walletAddress, signature)] }
  | .published => history

/-- The rows of one attempt; when it returned, the signature is made known and remembered. Source:
`transactions/service/bootstrap.rs`, phases 2 and 3 -/
def complete (completion : Completion) : History :=
  let write := fun deed history => History.deed history history.wallet completion.signature
    completion.now deed
  let stored := (history.writing completion.rawStored (write .cached)).writing
    completion.processedStored (write .recorded)
  if completion.returned then
    write .remembered (stored.writing completion.marked (write .committed))
  else stored

end History

/-- Attempts at a signature so far. -/
def attemptsAt (done : List Completion) (signature : String) : ℕ :=
  done.countP (·.signature == signature)

/-- A signature is still to be attempted: it has not returned, and has attempts left. -/
def isOpen (signatures : List String) (done : List Completion) (signature : String) : Bool :=
  signatures.contains signature &&
    !done.any (fun completion => completion.signature == signature && completion.returned) &&
    decide (attemptsAt done signature ≤ maxRetryAttempts)

/-- Attempts come back; those of a signature that is not open any more are not there. Source:
`transactions/service/bootstrap.rs`, phases 2 and 3 -/
def process (signatures : List String) :
    List Completion → (done : List Completion) → History → List Completion × History
  | [], done, history => (done, history)
  | completion :: completions, done, history =>
    if isOpen signatures done completion.signature then
      process signatures completions (done ++ [completion]) (history.complete completion)
    else process signatures completions done history

namespace History

variable (history : History)

/-- The end of a bootstrap in full mode: the full history is marked once the end of the chain was
reached, whatever came of the transactions. Source: `transactions/service/bootstrap.rs` -/
def finish (mode : BootstrapMode) (reachedChainEnd : Bool) (before : Option String)
    (answers : BootstrapAnswers) : History :=
  match mode with
  | .incremental => history
  | .full =>
    if reachedChainEnd then
      if answers.marked then
        history.markFullHistoryCompleted.writing answers.cursorWritten (·.setBackfillCursor none)
      else history
    else history.writing answers.cursorWritten (·.setBackfillCursor before)

variable (answers : BootstrapAnswers)

/-- Processed transactions are made known first; an error is only logged. Source:
`transactions/service/bootstrap.rs`, `perform_initial_transaction_bootstrap` -/
def reconciled : History :=
  match answers.reconciled with
  | some now => history.reconcileKnownWithProcessed now
  | none => history

/-- The start of a bootstrap, with the signatures it has to process. Source:
`transactions/service/bootstrap.rs`, phases 1 and 2 -/
def prepare : Collected × List String × History :=
  let start := history.reconciled answers
  let (mode, checkpoint) := start.bootstrapMode answers
  match collect mode checkpoint answers.pages start none [] with
  | (.ok signatures reachedChainEnd before, collected) =>
    let (signaturesToProcess, filtered) := collected.filterKnown answers.knownRead signatures
    (.ok signatures reachedChainEnd before, signaturesToProcess, filtered)
  | (failed, collected) => (failed, [], collected)

/-- The bootstrap of the own wallet. Source: `transactions/service/bootstrap.rs`,
`perform_initial_transaction_bootstrap` -/
def bootstrap : Bootstrapped × History :=
  let (mode, _) := (history.reconciled answers).bootstrapMode answers
  match history.prepare answers with
  | (.stopped, _, prepared) => (.stopped, prepared)
  | (.failed detail, _, prepared) => (.failed detail, prepared)
  | (.ok _ reachedChainEnd before, signaturesToProcess, prepared) =>
    let (done, processed) := process signaturesToProcess answers.completions [] prepared
    if signaturesToProcess.any (isOpen signaturesToProcess done) || !answers.finished then
      (.stopped, processed)
    else (.ok, processed.finish mode reachedChainEnd before answers)

/-! ## Live recordings -/

/-- A signature that is on chain comes through the funnel; the process may stop after some of the
deeds. Source: `wallets/watch/service.rs`, `process_signature` -/
def stream (walletAddress signature : String) (isOwn : Bool) (knownRead : Bool)
    (answers : FunnelAnswers) (done now : ℕ) : History :=
  if signature ∈ history.chain walletAddress then
    let seen :=
      if history.globalKnownSignatures.contains (walletAddress, signature) then some true
      else if knownRead then some (history.isSignatureKnown walletAddress signature) else none
    ((processSignature isOwn seen answers).2.take done).foldl
      (fun history deed => history.deed walletAddress signature now deed) history
  else history

end History

/-! ## Runs -/

/-- The chain gains a signature; the process starts again, or forgets one; the main wallet changes;
a signature is streamed; a bootstrap is run. -/
inductive HistoryEvent
  | gained (walletAddress signature : String)
  | restarted
  | forgotten (walletAddress signature : String)
  | switched (walletAddress : String)
  | streamed (walletAddress signature : String) (isOwn knownRead : Bool) (answers : FunnelAnswers)
      (done now : ℕ)
  | bootstrapped (answers : BootstrapAnswers)

/-- One event. -/
def History.step (history : History) : HistoryEvent → History
  | .gained walletAddress signature =>
    if signature ∈ history.chain walletAddress then history
    else { history with
      chain := Function.update history.chain walletAddress
        (signature :: history.chain walletAddress) }
  | .restarted => { history with globalKnownSignatures := [] }
  | .forgotten walletAddress signature =>
    { history with
      globalKnownSignatures := history.globalKnownSignatures.filter (· ≠ (walletAddress, signature)) }
  | .switched walletAddress => { history with wallet := walletAddress }
  | .streamed walletAddress signature isOwn knownRead answers done now =>
    history.stream walletAddress signature isOwn knownRead answers done now
  | .bootstrapped answers => (history.bootstrap answers).2

/-- A database that is new. -/
def History.opened (walletAddress : String) : History :=
  ⟨fun _ => [], walletAddress, [], [], [], none, []⟩

end Dripline.Transactions
