import Dripline.Transactions.History
import Dripline.Wallets.Activity
import Dripline.Wallets.Poller

/-!
# The wallet watch

`wallets/watch/service.rs` and `wallets/watch/service_targets.rs`: one loop takes notifications,
retries and polls, one after another, and brings every signature through the funnel.

* `Watch` — the tables, the runtimes of the watched wallets, and what was delivered and published.
* `deliver` — one signature through the funnel.
* `replay`, `pollTarget`, `handleOverflow` — one poll of one wallet.
* `reloadTargets` — the runtimes from the table of targets.
* `WatchEvent`, `Watch.step` — what happens to the watch, the process stopping anywhere among it.

What the chain and the databases answer is an argument of an event. A signature that comes in while
a poll is going on is in front of all that the poll reads, so it comes before the poll, or after it.

A source without a file is in `wallets/watch/service.rs` or the file of its section.
-/

namespace Dripline.Wallets

open Dripline.Found.Feed Dripline.Transactions

/-- A row of `watch_targets`, or the own wallet. Source: `wallets/watch/types.rs` -/
structure WatchTarget where
  id : Option ℤ
  address : String
  sources : List WatchSource
  enabled : Bool
  deriving DecidableEq

/-- Source: `wallets/watch/service_targets.rs` -/
structure TargetRuntime where
  target : WatchTarget
  catchUp : Option CatchUpState
  baselineOnly : Bool
  overflowStreak : ℕ
  backfill : Bool
  deriving DecidableEq

/-- Consecutive polls out of budget before a target is disabled. Source:
`wallets/watch/service_targets.rs`, `SATURATION_STREAK` -/
def saturationStreak : ℕ := 2

/-- The own wallet is among the reasons to watch. Source: `is_own` -/
def isOwn (sources : List WatchSource) : Bool := sources.contains .ownWallet

/-- A signature came through the funnel; without an outcome the process stopped while it did. -/
structure Delivery where
  address : String
  signature : String
  outcome : Option ProcessOutcome
  deriving DecidableEq

/-- The tables of transactions; the rows of `watch_targets`, and of `watch_cursors`, whose signature
may be null; the runtimes of the process; and what was delivered and published so far. -/
structure Watch where
  history : History
  targets : List WatchTarget
  cursors : String → Option (Option String)
  runtimes : String → Option TargetRuntime
  deliveries : List Delivery
  published : List WalletActivity

/-- The answers to the funnel about one signature: whether the database answers the dedupe, the
rest, what the transaction is, and the time. -/
structure Reply where
  knownRead : Bool
  answers : FunnelAnswers
  kind : ActivityKind
  now : ℕ

/-- The answers to a poll: whether the cursor and its row are read, how many pages are fetched
before one fails, the replies to the signatures, whether the cursor or the disabled target is
written. A process that stops while it replays gives no more replies; it may do so after some of the
deeds for the next signature. -/
structure PollAnswers where
  cursorRead : Bool
  rowRead : Bool
  fetched : ℕ
  replies : List Reply
  interrupted : Option (Reply × ℕ)
  written : Bool

namespace Watch

variable (watch : Watch)

/-! ## The funnel -/

/-- A signature is remembered, or the database knows it. Source: `wallets/watch/dedupe.rs`,
`has_seen` -/
def hasSeen (address signature : String) (knownRead : Bool) : Option Bool :=
  if watch.history.globalKnownSignatures.contains (address, signature) then some true
  else if knownRead then some (watch.history.isSignatureKnown address signature)
  else none

/-- One deed of the funnel about a signature. Source: `process_signature` -/
def act (address : String) (sources : List WatchSource) (backfill : Bool) (signature : String)
    (reply : Reply) (watch : Watch) : Deed → Watch
  | .published =>
    { watch with
      published := watch.published ++ [⟨address, signature, reply.kind, sources, backfill⟩] }
  | deed => { watch with history := watch.history.deed address signature reply.now deed }

/-- The deeds of the funnel about a signature, and its outcome. Source: `process_signature` -/
def process (address : String) (sources : List WatchSource) (signature : String) (reply : Reply) :
    ProcessOutcome × List Deed :=
  processSignature (isOwn sources) (watch.hasSeen address signature reply.knownRead) reply.answers

/-- A delivery is noted. -/
def noteDelivery (address signature : String) (outcome : Option ProcessOutcome) : Watch :=
  { watch with deliveries := watch.deliveries ++ [⟨address, signature, outcome⟩] }

/-- A signature comes through the funnel. Source: `process_signature` -/
def deliver (address : String) (sources : List WatchSource) (backfill : Bool) (signature : String)
    (reply : Reply) : ProcessOutcome × Watch :=
  let (outcome, deeds) := watch.process address sources signature reply
  (outcome, (deeds.foldl (act address sources backfill signature reply) watch).noteDelivery
    address signature (some outcome))

/-- The process stops after some of the deeds. -/
def interrupt (address : String) (sources : List WatchSource) (backfill : Bool)
    (signature : String) (reply : Reply) (done : ℕ) : Watch :=
  let deeds := (watch.process address sources signature reply).2.take done
  (deeds.foldl (act address sources backfill signature reply) watch).noteDelivery address signature none

/-! ## Tables and runtimes, `wallets/watch/database.rs` -/

def setCursor (address lastSignature : String) : Watch :=
  { watch with cursors := Function.update watch.cursors address (some (some lastSignature)) }

/-- A row that is there stays. Source: `wallets/watch/database.rs` -/
def markCursorInitialized (address : String) : Watch :=
  { watch with
    cursors := Function.update watch.cursors address (some ((watch.cursors address).getD none)) }

/-- No row, or a row without a signature. Source: `wallets/watch/database.rs` -/
def getCursor (address : String) : Option String := (watch.cursors address).join

def hasCursorRow (address : String) : Bool := (watch.cursors address).isSome

def setEnabled (id : ℤ) (enabled : Bool) : Watch :=
  { watch with
    targets := watch.targets.map fun target =>
      if target.id = some id then { target with enabled := enabled } else target }

/-- The runtime of a wallet. -/
def setRuntime (address : String) (runtime : TargetRuntime) : Watch :=
  { watch with runtimes := Function.update watch.runtimes address (some runtime) }

/-- The process starts again: it remembers nothing, and has no runtimes until they are loaded. -/
def restarted : Watch :=
  { watch with
    history := { watch.history with globalKnownSignatures := [] }
    runtimes := fun _ => none }

/-- Source: `wallets/watch/service_targets.rs` -/
def register (runtimes : String → Option TargetRuntime) (target : WatchTarget) :
    String → Option TargetRuntime :=
  Function.update runtimes target.address (some ⟨target, none, false, 0, false⟩)

/-- The own wallet, which is not in the table. Source: `wallets/watch/service_targets.rs`,
`reload_targets` -/
def ownTarget : WatchTarget := ⟨none, watch.history.wallet, [.ownWallet], true⟩

/-- The wallet is the own one, or has a row. -/
def Listed (address : String) : Prop :=
  address = watch.history.wallet ∨ address ∈ watch.targets.map (·.address)

instance (address : String) : Decidable (watch.Listed address) :=
  inferInstanceAs (Decidable (_ ∨ _))

def purgeOrphanCursors : Watch :=
  { watch with
    cursors := fun address => if watch.Listed address then watch.cursors address else none }

/-- All runtimes anew: the own wallet, and the enabled targets when targets are watched and could be
listed; orphan cursors are purged when that could be done. Source:
`wallets/watch/service_targets.rs`, `reload_targets` -/
def reloadTargets (purged listed : Bool) : Watch :=
  let watch := if purged then watch.purgeOrphanCursors else watch
  let targets := if listed then watch.targets.filter (·.enabled) else []
  { watch with runtimes := (watch.ownTarget :: targets).foldl register fun _ => none }

/-! ## A poll -/

/-- A range is opened, or goes on; one that a gap-fill has opened stays a backfill. Source:
`poll_target` -/
def openRange (address : String) (backfill : Bool) (answers : PollAnswers)
    (runtime : TargetRuntime) : TargetRuntime × CatchUpState :=
  match runtime.catchUp with
  | some state => ({ runtime with backfill := runtime.backfill || backfill }, state)
  | none =>
    let cursor := if answers.cursorRead then watch.getCursor address else none
    ({ runtime with
        baselineOnly := !isOwn runtime.target.sources &&
          !(answers.rowRead && watch.hasCursorRow address)
        backfill := backfill },
      .new cursor)

/-- The range of another's wallet does not fit into a tick: it is skipped to the newest signature
that was seen, and the second time the target is disabled. Source:
`wallets/watch/service_targets.rs`, `handle_overflow` -/
def handleOverflow (address : String) (written : Bool) (runtime : TargetRuntime)
    (state : CatchUpState) : Watch :=
  let runtime := { runtime with catchUp := none, overflowStreak := runtime.overflowStreak + 1 }
  let dropped := watch.setRuntime address runtime
  if saturationStreak ≤ runtime.overflowStreak then
    match runtime.target.id with
    | some id => if written then dropped.setEnabled id false else dropped
    | none => dropped
  else
    match state.newestSignature with
    | some newest => if written then dropped.setCursor address newest else dropped
    | none => dropped

/-- A target that is observed for the first time: its newest signature is the baseline. Source:
`poll_target` -/
def establishBaseline (address : String) (written : Bool) (runtime : TargetRuntime)
    (range : CompletedCatchUp) : Watch :=
  if written then
    let established := match range.newestSignature with
      | some newest => watch.setCursor address newest
      | none => watch.markCursorInitialized address
    established.setRuntime address
      { runtime with catchUp := none, baselineOnly := false, overflowStreak := 0 }
  else watch

/-- The signatures of a range, oldest first; all of them, whatever comes of one. True when none has
to come again; none when the process has stopped. Source: `poll_target` -/
def replay (address : String) (sources : List WatchSource) (backfill : Bool)
    (interrupted : Option (Reply × ℕ)) : List String → List Reply → Watch → Option Bool × Watch
  | [], _, watch => (some true, watch)
  | signature :: _, [], watch =>
    (none, match interrupted with
      | some (reply, done) => watch.interrupt address sources backfill signature reply done
      | none => watch)
  | signature :: signatures, reply :: replies, watch =>
    let (outcome, delivered) := watch.deliver address sources backfill signature reply
    let (complete, replayed) :=
      replay address sources backfill interrupted signatures replies delivered
    (complete.map (outcome == .terminal && ·), replayed)

/-- A range is closed: its newest signature becomes the cursor. Source: `poll_target` -/
def closeRange (address : String) (written : Bool) (runtime : TargetRuntime)
    (newest : Option String) : Watch :=
  let closed := watch.setRuntime address { runtime with catchUp := none }
  match newest with
  | some newest => if written then closed.setCursor address newest else watch
  | none => closed

/-- One poll of one wallet, with a page size and a budget of pages. Source: `poll_target` -/
def pollTarget (size budget : ℕ) (address : String) (backfill : Bool) (answers : PollAnswers) :
    Watch :=
  match watch.runtimes address with
  | none => watch
  | some runtime =>
    let (runtime, state) := watch.openRange address backfill answers runtime
    let (advanced, state) :=
      advanceCatchUp size budget (watch.history.chain address) answers.fetched state
    let runtime := { runtime with catchUp := some state }
    let polled := watch.setRuntime address runtime
    match advanced with
    | .failed => polled
    | .more =>
      if isOwn runtime.target.sources then polled
      else polled.handleOverflow address answers.written runtime state
    | .completed range =>
      if runtime.baselineOnly then polled.establishBaseline address answers.written runtime range
      else
        let runtime := { runtime with overflowStreak := 0 }
        match replay address runtime.target.sources runtime.backfill answers.interrupted
          range.signatures answers.replies (watch.setRuntime address runtime) with
        | (none, stopped) => stopped.restarted
        | (some false, replayed) => replayed
        | (some true, replayed) =>
          replayed.closeRange address answers.written runtime range.newestSignature

end Watch

/-! ## Runs -/

/-- The chain gains a signature; the process forgets one; another service makes one known, in the
database too when that is written; the own wallet is bootstrapped; the process starts again, loads
its targets; a target is stored, is removed; a signature comes with a notification or a retry, the
process may stop with it; a wallet is polled. -/
inductive WatchEvent
  | gained (address signature : String)
  | forgotten (address signature : String)
  | noted (address signature : String) (stored : Option ℕ)
  | bootstrapped (answers : BootstrapAnswers)
  | restarted
  | reloaded (purged listed : Bool)
  | stored (target : WatchTarget)
  | removed (address : String)
  | notified (address signature : String) (reply : Reply)
  | interrupted (address signature : String) (reply : Reply) (done : ℕ)
  | polled (address : String) (backfill : Bool) (answers : PollAnswers)

namespace Watch

/-- One event, with a page size and a budget of pages. -/
def step (size budget : ℕ) (watch : Watch) : WatchEvent → Watch
  | .gained address signature =>
    { watch with history := watch.history.step (.gained address signature) }
  | .forgotten address signature =>
    { watch with history := watch.history.step (.forgotten address signature) }
  | .noted address signature stored =>
    let history := match stored with
      | some now => watch.history.addKnownSignature address signature now
      | none => watch.history
    { watch with history := history.deed address signature 0 .remembered }
  | .bootstrapped answers => { watch with history := watch.history.step (.bootstrapped answers) }
  | .restarted => watch.restarted
  | .reloaded purged listed => watch.reloadTargets purged listed
  | .stored target =>
    { watch with targets := watch.targets.filter (·.address ≠ target.address) ++ [target] }
  | .removed address =>
    { watch with
      targets := watch.targets.filter (·.address ≠ address)
      cursors := Function.update watch.cursors address none }
  | .notified address signature reply =>
    match watch.runtimes address with
    | some runtime => (watch.deliver address runtime.target.sources false signature reply).2
    | none => watch
  | .interrupted address signature reply done =>
    match watch.runtimes address with
    | some runtime =>
      (watch.interrupt address runtime.target.sources false signature reply done).restarted
    | none => watch
  | .polled address backfill answers => watch.pollTarget size budget address backfill answers

/-- Databases that are new, before the process starts. -/
def opened (wallet : String) : Watch :=
  ⟨.opened wallet, [], fun _ => none, fun _ => none, [], []⟩

end Watch

end Dripline.Wallets
