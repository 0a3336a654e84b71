import Dripline.Found.Updates
import Dripline.AgentControl.Audit
import Mathlib.Algebra.Order.Group.Int

/-!
# Approvals of agents' requests

`agent_control/approvals.rs`, `agent_control/bridge.rs` (`execute_approved`), and the sweeps of
`agent_control/store.rs`. Each statement on the database is one step; between two of them anything
may happen.

* `Approval`, the updates — a row, and every statement that changes one.
* `Call` — how far a call has come, and what it goes on with.
* `Answer` — what a step meets: the clock, whether the statement fails, and what the rest of the
  process says.

A source without a file is in `approvals.rs`.
-/

namespace Dripline.AgentControl

open Dripline.Found.Updates

/-- Source: `ApprovalState`; a row holds one of their texts -/
inductive ApprovalState
  | pending
  | claimed
  | executing
  | done
  | failed
  | denied
  | expired
  deriving DecidableEq

/-- The states that a row stays in. -/
def ApprovalState.Terminal : ApprovalState → Prop
  | .done | .failed | .denied | .expired => True
  | .pending | .claimed | .executing => False

/-- The states with a result. -/
def ApprovalState.HasResult : ApprovalState → Prop
  | .done | .failed => True
  | _ => False

/-- A row of the table, without what only the audit reads. Source: `store.rs`, `approvals` -/
structure Approval (D : Type) where
  id : String
  clientId : String
  tool : String
  argsDigest : D
  canonicalArgs : String
  state : ApprovalState
  expiresAt : ℤ
  resultJson : Option String

/-- How long a request may wait. Source: `APPROVAL_TTL` -/
def approvalTtl : ℤ := 5 * 60

variable {D N : Type} [DecidableEq D]

/-! ## Statements -/

section statements

variable (id : String) (now : ℤ)

/-- Source: `row_to_handle` -/
def expire : Update (Approval D) where
  guard row := row.id = id && row.state = .pending
  change row := { row with state := .expired }

/-- Source: `deny` -/
def denyPending : Update (Approval D) where
  guard row := row.id = id && row.state = .pending
  change row := { row with state := .denied }

/-- Source: `claim` -/
def claimPending : Update (Approval D) where
  guard row := row.id = id && row.state = .pending && decide (now < row.expiresAt)
  change row := { row with state := .claimed }

/-- Source: `claim`, the integrity check -/
def failAny (result : String) : Update (Approval D) where
  guard row := row.id = id
  change row := { row with state := .failed, resultJson := some result }

/-- Source: `claim`, arguments that cannot be read -/
def failClaimed (result : String) : Update (Approval D) where
  guard row := row.id = id && row.state = .claimed
  change row := { row with state := .failed, resultJson := some result }

/-- Source: `mark_executing` -/
def markExecuting : Update (Approval D) where
  guard row := row.id = id && row.state = .claimed
  change row := { row with state := .executing }

/-- Source: `finish` -/
def finishExecuting (ok : Bool) (result : String) : Update (Approval D) where
  guard row := row.id = id && row.state = .executing
  change row := { row with state := if ok then .done else .failed, resultJson := some result }

/-- Source: `store.rs`, `sweep`, `recover_interrupted` -/
def expireOverdue : Update (Approval D) where
  guard row := row.state = .pending && decide (row.expiresAt ≤ now)
  change row := { row with state := .expired }

/-- Source: `store.rs`, `recover_interrupted` -/
def failInterrupted : Update (Approval D) where
  guard row := row.state = .claimed || row.state = .executing
  change row :=
    { row with
      state := .failed
      resultJson := some (failureText "interrupted at shutdown; not retried") }

end statements

/-! ## Calls -/

/-- The row that an executor has claimed. Source: `ClaimedApproval` -/
structure ClaimedApproval (N : Type) where
  id : String
  clientId : String
  tool : String
  canonicalArgs : Value N

/-- Why an approved request is not run any more. Source: `bridge.rs`, `execute_approved` -/
inductive Refusal
  | disabled
  | revoked
  | toolGone
  | denied
  | restarting

/-- Source: `bridge.rs`, `execute_approved` -/
def Refusal.detail : Refusal → String
  | .disabled => "agent control was disabled before this request could run"
  | .revoked => "the paired client was revoked before this request could run"
  | .toolGone => "the requested tool is no longer available"
  | .denied => "policy denies this tool for the paired client"
  | .restarting => "an application update is restarting the tool runtime"

/-- The result of a request that is not run. Source: `bridge.rs`, `execute_approved`, `fail` -/
def Refusal.result (refusal : Refusal) : Value N :=
  .object [("success", .bool false), ("error", .string refusal.detail)]

/-- How far a call has come: the statement, or the other step, that it goes on with. -/
inductive Call (D N : Type)
  | createInsert (clientId tool : String) (args : Value N)
  | createRead (clientId tool : String) (digest : D)
  | viewRead (id clientId : String)
  | lazyExpire (id : String)
  | deny (id : String)
  | claim (id : String)
  | claimRead (id : String)
  | failIntegrity (id : String)
  | failParse (id : String)
  | permit (claimed : ClaimedApproval N)
  | mark (claimed : ClaimedApproval N)
  | beginTool (claimed : ClaimedApproval N)
  | running (claimed : ClaimedApproval N)
  | finish (id : String) (ok : Bool) (result : Value N)
  | failMark (id : String) (refusal : Refusal)
  | failFinish (id : String) (refusal : Refusal)
  | sweep
  | recoverFailed
  | recoverExpired

namespace Call

/-- What a call begins with. -/
def IsEntry : Call D N → Prop
  | .createInsert _ _ _ | .viewRead _ _ | .deny _ | .claim _ | .sweep | .recoverFailed => True
  | _ => False

instance (call : Call D N) : Decidable call.IsEntry := by
  unfold IsEntry
  cases call <;> infer_instance

/-- The row that an executor has moved out of `pending`. -/
def claimedId : Call D N → Option String
  | .claimRead id | .failIntegrity id | .failParse id => some id
  | .permit claimed | .mark claimed | .beginTool claimed | .running claimed => some claimed.id
  | .finish id _ _ | .failMark id _ | .failFinish id _ => some id
  | _ => none

/-- The row of an executor that has not run the tool and may still. -/
def unexecutedId : Call D N → Option String
  | .claimRead id => some id
  | .permit claimed | .mark claimed | .beginTool claimed => some claimed.id
  | _ => none

/-- The row of an executor that has not marked it. -/
def unmarkedId : Call D N → Option String
  | .claimRead id | .failIntegrity id | .failParse id => some id
  | .permit claimed | .mark claimed => some claimed.id
  | _ => none

/-- What an executor has read of its row. -/
def payload : Call D N → Option (ClaimedApproval N)
  | .permit claimed | .mark claimed | .beginTool claimed | .running claimed => some claimed
  | _ => none

end Call

/-- What a step meets: the time, whether the statement fails, a new id, whether agent control is
enabled, why the request may not run, whether the tool runtime is up, and what the tool returns. -/
structure Answer (N : Type) where
  now : ℤ
  fails : Bool
  uuid : String
  enabled : Bool
  refusal : Option Refusal
  runtime : Bool
  success : Bool
  result : Value N

/-! ## The system -/

/-- The rows, the calls on the way, the claims with their times, and the tools that were run. -/
structure Store (D N : Type) where
  rows : List (Approval D)
  calls : ℕ → Option (Call D N)
  claims : List (String × ℤ)
  executions : List (String × Value N)

namespace Store

variable (codec : Codec N) (digest : String → D) (store : Store D N)

/-- Nothing has happened. -/
def empty : Store D N := ⟨[], fun _ => none, [], []⟩

/-- The row of an id. -/
def row (id : String) : Option (Approval D) := store.rows.find? fun row => row.id = id

/-- A statement that nothing is made of when it fails. -/
def run (update : Update (Approval D)) (fails : Bool) : Store D N :=
  if fails then store else { store with rows := update.run store.rows }

variable (answer : Answer N)

/-- Source: `create_or_reuse`, the insert -/
def insert (clientId tool : String) (args : Value N) :
    Store D N × Option (Call D N) :=
  let canonical := codec.canonicalize args
  let next := some (.createRead clientId tool (digest canonical))
  if answer.fails || store.rows.any (fun row => row.id = answer.uuid) then (store, none)
  else if store.rows.any fun row =>
      row.clientId = clientId && row.tool = tool && row.argsDigest = digest canonical then
    (store, next)
  else
    ({ store with
        rows := store.rows ++
          [{ id := answer.uuid
             clientId := clientId
             tool := tool
             argsDigest := digest canonical
             canonicalArgs := canonical
             state := .pending
             expiresAt := answer.now + approvalTtl
             resultJson := none }] }, next)

/-- A row that was read is expired, or the call returns. Source: `row_to_handle` -/
def handle (found : Option (Approval D)) : Option (Call D N) :=
  match found with
  | some row =>
    if row.state = .pending ∧ row.expiresAt ≤ answer.now then some (.lazyExpire row.id) else none
  | none => none

/-- Source: `claim`, the update -/
def claimUpdate (id : String) : Store D N × Option (Call D N) :=
  if answer.fails = false ∧ (claimPending id answer.now).affects store.rows = true then
    ({ store with
        rows := (claimPending id answer.now).run store.rows
        claims := store.claims ++ [(id, answer.now)] }, some (.claimRead id))
  else (store, none)

/-- Source: `claim`, after the update -/
def readClaimed (id : String) : Option (Call D N) :=
  if answer.fails then none
  else
    match store.row id with
    | none => none
    | some row =>
      if digest row.canonicalArgs ≠ row.argsDigest then some (.failIntegrity id)
      else
        match codec.parse row.canonicalArgs with
        | none => some (.failParse id)
        | some args => some (.permit ⟨id, row.clientId, row.tool, args⟩)

/-- Source: `bridge.rs`, `execute_approved`, the checks -/
def permitNext (claimed : ClaimedApproval N) : Option (Call D N) :=
  if answer.enabled = false then some (.failMark claimed.id .disabled)
  else if answer.fails then none
  else
    match answer.refusal with
    | some refusal => some (.failMark claimed.id refusal)
    | none => some (.mark claimed)

/-- Source: `mark_executing`; `bridge.rs`, `execute_approved` -/
def markNext (claimed : ClaimedApproval N) : Store D N × Option (Call D N) :=
  if answer.fails = false ∧ (markExecuting claimed.id).affects store.rows = true then
    ({ store with rows := (markExecuting claimed.id).run store.rows }, some (.beginTool claimed))
  else (store, none)

/-- Source: `bridge.rs`, `execute_approved`, the tool -/
def beginNext (claimed : ClaimedApproval N) : Store D N × Option (Call D N) :=
  if answer.runtime then
    ({ store with executions := store.executions ++ [(claimed.id, claimed.canonicalArgs)] },
      some (.running claimed))
  else (store, some (.failMark claimed.id .restarting))

/-- What a call does next, and what it goes on with; nothing once it returns. -/
def next : Call D N → Store D N × Option (Call D N)
  | .createInsert clientId tool args => store.insert codec digest answer clientId tool args
  | .createRead clientId tool digest =>
    (store, if answer.fails then none
      else handle answer (store.rows.find? fun row =>
        row.clientId = clientId && row.tool = tool && row.argsDigest = digest))
  | .viewRead id clientId =>
    (store, if answer.fails then none
      else handle answer (store.rows.find? fun row => row.id = id && row.clientId = clientId))
  | .lazyExpire id => (store.run (expire id) answer.fails, none)
  | .deny id => (store.run (denyPending id) answer.fails, none)
  | .claim id => store.claimUpdate answer id
  | .claimRead id => (store, store.readClaimed codec digest answer id)
  | .failIntegrity id =>
    (store.run (failAny id (failureText "argument integrity check failed")) answer.fails, none)
  | .failParse id =>
    (store.run (failClaimed id (failureText "stored canonical args are not valid JSON")) answer.fails,
      none)
  | .permit claimed => (store, permitNext answer claimed)
  | .mark claimed => store.markNext answer claimed
  | .beginTool claimed => store.beginNext answer claimed
  | .running claimed => (store, some (.finish claimed.id answer.success answer.result))
  | .finish id ok result =>
    (store.run (finishExecuting id ok (codec.text (codec.sanitizeValue result))) answer.fails, none)
  | .failMark id refusal =>
    (store.run (markExecuting id) answer.fails, some (.failFinish id refusal))
  | .failFinish id refusal =>
    (store.run (finishExecuting id false (codec.text (codec.sanitizeValue refusal.result)))
      answer.fails, none)
  | .sweep => (store.run (expireOverdue answer.now) answer.fails, none)
  | .recoverFailed =>
    (store.run failInterrupted answer.fails, if answer.fails then none else some .recoverExpired)
  | .recoverExpired => (store.run (expireOverdue answer.now) answer.fails, none)

/-- A call begins, makes a step, is dropped; or the process dies with all its calls. -/
inductive Event (D N : Type)
  | begins (caller : ℕ) (call : Call D N)
  | goesOn (caller : ℕ) (answer : Answer N)
  | dropped (caller : ℕ)
  | crashed

/-- A call's next step. -/
def goesOn (caller : ℕ) (answer : Answer N) : Store D N :=
  match store.calls caller with
  | none => store
  | some call =>
    let made := store.next codec digest answer call
    { made.1 with calls := Function.update store.calls caller made.2 }

/-- What an event does. -/
def step : Event D N → Store D N
  | .begins caller call =>
    if store.calls caller = none ∧ call.IsEntry then
      { store with calls := Function.update store.calls caller (some call) }
    else store
  | .goesOn caller answer => store.goesOn codec digest caller answer
  | .dropped caller => { store with calls := Function.update store.calls caller none }
  | .crashed => { store with calls := fun _ => none }

end Store

end Dripline.AgentControl
