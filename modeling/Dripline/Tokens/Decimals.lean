import Mathlib
import Dripline.Found.Trace

/-!
# The decimals of a mint

`tokens/decimals.rs`. Calls of `get` run side by side; every look at a cache, every answer of a
source and every operation on a lock is a step of its own. What a source answers, and what other
code does to the caches, is not restricted.

* `resolved_of_careful` — a run of careful steps is resolved.

A source without a file is in `decimals.rs`.
-/

namespace Dripline.Tokens.Decimals

open Function

open Dripline.Found.Trace (Throughout)

/-- Source: `MAX_DECIMALS` -/
def maxDecimals : ℕ := 18

/-- Source: `chains/solana/constants.rs` -/
def solDecimals : ℕ := 9

/-- The length above which the locks are cleared. Source: `fetch_lock_for` -/
def maxFetchLocks : ℕ := 10000

/-- What the database and Rugcheck answer for decimals they have. Source: `get_from_db`, `get_from_rugcheck` -/
def positive (answer : Option ℕ) : Option ℕ := answer.filter (0 < ·)

/-- What the data server answers for a number it has. Source: `get_from_server` -/
def byte (answer : Option ℕ) : Option ℕ := answer.filter (· ≤ 255)

/-- A lock: the mint it was made for, and which one it was. -/
structure Lock (κ : Type*) where
  mint : κ
  serial : ℕ
  deriving DecidableEq

/-- What a call of `get` does next. Source: `get` -/
inductive Stage (κ : Type*)
  | start
  | readCache
  | checkFailure
  | askDb
  | cacheDb (decimals : ℕ)
  | clearDb (decimals : ℕ)
  | fetchLock
  | waiting (lock : Lock κ)
  | recheckFailure (lock : Lock κ)
  | recheckCache (lock : Lock κ)
  | hit (lock : Lock κ) (decimals : ℕ)
  | askServer (lock : Lock κ)
  | fetching (lock : Lock κ)
  | askRugcheck (lock : Lock κ)
  | caching (lock : Lock κ) (decimals : ℕ)
  | clearing (lock : Lock κ) (decimals : ℕ)
  | persisting (lock : Lock κ) (decimals : ℕ)
  | persisted (lock : Lock κ) (decimals : ℕ)
  | marking (lock : Lock κ)
  | unlocking (lock : Lock κ) (result : Option ℕ)
  | releasing (result : Option ℕ)
  | returned (result : Option ℕ)

/-- A call: where it is, whether it began a fetch, and the outcome of the fetch it waited for. -/
structure Call (κ : Type*) where
  stage : Stage κ
  fetched : Bool
  waited : Option (Option ℕ)

/-- A call that waits for the lock sees how the fetch under it ends. -/
def Call.tell {κ : Type*} [DecidableEq κ] (lock : Lock κ) (result : Option ℕ) (call : Call κ) :
    Call κ :=
  match call.stage with
  | .waiting awaited => if awaited = lock then { call with waited := some result } else call
  | _ => call

/-- Source: `DECIMALS_CACHE`, `FAILED_CACHE`, `FETCH_LOCKS` -/
structure State (τ κ : Type*) where
  cached : κ → Option ℕ
  failed : κ → Bool
  locks : List (Lock κ)
  made : ℕ
  held : Lock κ → Bool
  calls : τ → Call κ

/-- A call goes on, with what is answered where it asks; other code writes the first half of
`cache`, a value leaves the cache, or a failure is forgotten. -/
inductive Event (τ κ : Type*)
  | advance (task : τ) (answer : Option ℕ)
  | write (mint : κ) (decimals : ℕ)
  | evict (mint : κ)
  | forget (mint : κ)

/-- Nothing is known, and no call has begun. -/
def start (τ κ : Type*) : State τ κ where
  cached := fun _ => none
  failed := fun _ => false
  locks := []
  made := 0
  held := fun _ => false
  calls := fun _ => ⟨.start, false, none⟩

namespace State

variable {τ κ : Type*} [DecidableEq τ] [DecidableEq κ] (state : State τ κ)

/-- A call is put elsewhere. -/
def set (task : τ) (call : Call κ) : State τ κ :=
  { state with calls := Function.update state.calls task call }

/-- A call goes to its next stage. -/
def move (task : τ) (stage : Stage κ) : State τ κ :=
  state.set task { state.calls task with stage := stage }

/-- The cache of a mint. -/
def store (mint : κ) (decimals : Option ℕ) : State τ κ :=
  { state with cached := Function.update state.cached mint decimals }

/-- Source: `mark_failure`, `clear_failure` -/
def flag (mint : κ) (failure : Bool) : State τ κ :=
  { state with failed := Function.update state.failed mint failure }

/-- The locks are others. -/
def relock (locks : List (Lock κ)) (made : ℕ) : State τ κ :=
  { state with locks := locks, made := made }

/-- A lock is taken or given back. -/
def hold (lock : Lock κ) (taken : Bool) : State τ κ :=
  { state with held := Function.update state.held lock taken }

/-- Those who wait for a lock see how the fetch under it ends. -/
def tell (lock : Lock κ) (result : Option ℕ) : State τ κ :=
  { state with calls := fun task => (state.calls task).tell lock result }

end State

/-- The lock of a mint. -/
def lockOf {κ : Type*} [DecidableEq κ] (locks : List (Lock κ)) (mint : κ) : Option (Lock κ) :=
  locks.find? (·.mint = mint)

section Calls

variable {τ κ : Type*} [DecidableEq τ] [DecidableEq κ] (isNative : κ → Bool) (mint : τ → κ)

/-- Source: `get_cached` -/
def getCached (state : State τ κ) (mint : κ) : Option ℕ :=
  if isNative mint then some solDecimals
  else if state.failed mint then none
  else state.cached mint

/-- The locks that `fetch_lock_for` looks at. Source: `fetch_lock_for` -/
def keptLocks (state : State τ κ) : List (Lock κ) :=
  if maxFetchLocks < state.locks.length then [] else state.locks

/-- A call gets the lock of its mint. Source: `fetch_lock_for` -/
def fetchLockFor (state : State τ κ) (task : τ) : State τ κ :=
  match lockOf (keptLocks state) (mint task) with
  | some lock => (state.relock (keptLocks state) state.made).move task (.waiting lock)
  | none =>
    (state.relock (⟨mint task, state.made⟩ :: keptLocks state) (state.made + 1)).move task
      (.waiting ⟨mint task, state.made⟩)

/-- The locks without that of a mint. Source: `release_lock_if_idle` -/
def releaseLockIfIdle (state : State τ κ) (mint : κ) : State τ κ :=
  state.relock (state.locks.filter (·.mint ≠ mint)) state.made

/-- A call goes on. A native mint is not looked for again: its call has returned. Source: `get` -/
def advance (state : State τ κ) (task : τ) (answer : Option ℕ) : State τ κ :=
  match (state.calls task).stage with
  | .start =>
    if isNative (mint task) then state.move task (.returned (some solDecimals))
    else if state.failed (mint task) then state.move task .checkFailure
    else state.move task .readCache
  | .readCache =>
    match state.cached (mint task) with
    | some decimals => state.move task (.returned (some decimals))
    | none => state.move task .checkFailure
  | .checkFailure =>
    if state.failed (mint task) then state.move task (.returned none)
    else state.move task .askDb
  | .askDb =>
    match positive answer with
    | some decimals => state.move task (.cacheDb decimals)
    | none => state.move task .fetchLock
  | .cacheDb decimals =>
    if decimals ≤ maxDecimals then
      (state.store (mint task) (some decimals)).move task (.clearDb decimals)
    else state.move task (.returned (some decimals))
  | .clearDb decimals =>
    (state.flag (mint task) false).move task (.returned (some decimals))
  | .fetchLock => fetchLockFor mint state task
  | .waiting lock =>
    if state.held lock then state
    else (state.hold lock true).move task (.recheckFailure lock)
  | .recheckFailure lock =>
    if state.failed (mint task) then state.move task (.askServer lock)
    else state.move task (.recheckCache lock)
  | .recheckCache lock =>
    match state.cached (mint task) with
    | some decimals => state.move task (.hit lock decimals)
    | none => state.move task (.askServer lock)
  | .hit lock decimals => (state.move task (.releasing (some decimals))).hold lock false
  | .askServer lock =>
    match byte answer with
    | some decimals => state.move task (.caching lock decimals)
    | none => state.set task { state.calls task with stage := .fetching lock, fetched := true }
  | .fetching lock =>
    match answer with
    | some decimals => state.move task (.caching lock decimals)
    | none => state.move task (.askRugcheck lock)
  | .askRugcheck lock =>
    match positive answer with
    | some decimals => state.move task (.caching lock decimals)
    | none => state.move task (.marking lock)
  | .caching lock decimals =>
    if decimals ≤ maxDecimals then
      (state.store (mint task) (some decimals)).move task (.clearing lock decimals)
    else state.move task (.persisting lock decimals)
  | .clearing lock decimals =>
    (state.flag (mint task) false).move task (.persisting lock decimals)
  | .persisting lock decimals =>
    -- a row that is written caches its decimals again
    if answer.isSome ∧ 0 < decimals ∧ decimals ≤ maxDecimals then
      (state.store (mint task) (some decimals)).move task (.persisted lock decimals)
    else state.move task (.unlocking lock (some decimals))
  | .persisted lock decimals =>
    (state.flag (mint task) false).move task (.unlocking lock (some decimals))
  | .marking lock => (state.flag (mint task) true).move task (.unlocking lock none)
  | .unlocking lock result =>
    let left := (state.move task (.releasing result)).hold lock false
    if (state.calls task).fetched then left.tell lock result else left
  | .releasing result => (releaseLockIfIdle state (mint task)).move task (.returned result)
  | .returned _ => state

/-- One step. -/
def step (state : State τ κ) : Event τ κ → State τ κ
  | .advance task answer => advance isNative mint state task answer
  | .write mint decimals =>
    if decimals ≤ maxDecimals then state.store mint (some decimals) else state
  | .evict mint => state.store mint none
  | .forget mint => state.flag mint false

/-- **Resolved**: a mint is fetched by one call at a time, a call that waited for a fetch returns
its outcome and begins none, and decimals are in range. -/
structure Resolved (state : State τ κ) : Prop where
  single : ∀ task task' lock lock', (state.calls task).stage = .fetching lock →
    (state.calls task').stage = .fetching lock' → mint task = mint task' → task = task'
  joined : ∀ task outcome, (state.calls task).waited = some outcome →
    (state.calls task).fetched = false ∧
      ∀ result, (state.calls task).stage = .returned result → result = outcome
  returned : ∀ task decimals, (state.calls task).stage = .returned (some decimals) →
    decimals ≤ maxDecimals
  cached : ∀ mint decimals, getCached isNative state mint = some decimals → decimals ≤ maxDecimals

end Calls

/-! ## Where a call is -/

namespace Stage

variable {κ : Type*}

/-- The lock that a call holds. -/
def holds : Stage κ → Option (Lock κ)
  | .recheckFailure lock | .recheckCache lock | .hit lock _ | .askServer lock | .fetching lock
  | .askRugcheck lock | .caching lock _ | .clearing lock _ | .persisting lock _
  | .persisted lock _ | .marking lock | .unlocking lock _ => some lock
  | _ => none

/-- The lock that a call waits for, or holds. -/
def claims : Stage κ → Option (Lock κ)
  | .waiting lock => some lock
  | stage => stage.holds

/-- The lock under which a call resolves its mint, having found nothing in the cache. -/
def resolves : Stage κ → Option (Lock κ)
  | .askServer lock | .fetching lock | .askRugcheck lock | .caching lock _ | .clearing lock _
  | .persisting lock _ | .persisted lock _ | .marking lock | .unlocking lock _ => some lock
  | _ => none

/-- The decimals that a call will return. -/
def decimals : Stage κ → Option ℕ
  | .cacheDb decimals | .clearDb decimals | .hit _ decimals | .caching _ decimals
  | .clearing _ decimals | .persisting _ decimals | .persisted _ decimals => some decimals
  | .unlocking _ result | .releasing result | .returned result => result
  | _ => none

/-- A call that began a fetch may be here. -/
def begun : Stage κ → Bool
  | .fetching _ | .askRugcheck _ | .caching _ _ | .clearing _ _ | .persisting _ _
  | .persisted _ _ | .marking _ | .unlocking _ _ | .releasing _ | .returned _ => true
  | _ => false

/-- A call that has not asked for a lock. -/
def early : Stage κ → Bool
  | .start | .readCache | .checkFailure | .askDb | .cacheDb _ | .clearDb _ | .fetchLock => true
  | _ => false

/-- A call is yet to look at the cache again. -/
def pending : Stage κ → Bool
  | .waiting _ | .recheckFailure _ | .recheckCache _ => true
  | _ => false

/-- What a call returns that has looked at the cache again, or has returned. -/
def outcome : Stage κ → Option (Option ℕ)
  | .hit _ decimals => some (some decimals)
  | .releasing result | .returned result => some result
  | _ => none

end Stage

section Care

variable {τ κ : Type*} [DecidableEq τ] [DecidableEq κ] (mint : τ → κ)

/-- A call that waited for a fetch of the mint has not looked at the cache again. -/
def Owed (state : State τ κ) (key : κ) : Prop :=
  ∃ task, mint task = key ∧ (state.calls task).stage.pending = true ∧
    (state.calls task).waited ≠ none

/-- **A careful step**: a source does not answer with more than the decimals there can be; a fetch
that others wait for ends with its value in the cache, which stays until they have looked; a call
whose lock is no longer that of the mint finds a value; and a mint does not lose its lock while a
call resolves it. -/
def Careful (state : State τ κ) : Event τ κ → Prop
  | .advance task answer =>
    match (state.calls task).stage with
    | .askDb | .fetching _ | .askRugcheck _ => ∀ decimals ∈ answer, decimals ≤ maxDecimals
    | .askServer _ => ∀ decimals ∈ byte answer, decimals ≤ maxDecimals
    | .cacheDb decimals =>
      Owed mint state (mint task) → state.cached (mint task) = some decimals
    | .fetchLock =>
      maxFetchLocks < state.locks.length →
        ∀ other, (state.calls other).stage.resolves = none
    | .recheckFailure lock =>
      lockOf state.locks (mint task) ≠ some lock → state.failed (mint task) = false
    | .recheckCache lock =>
      lockOf state.locks (mint task) ≠ some lock → state.cached (mint task) ≠ none
    | .unlocking lock result =>
      (state.calls task).fetched = true →
        (∃ other, (state.calls other).stage = .waiting lock) →
          state.failed (mint task) = false ∧
            ∃ decimals, result = some decimals ∧ state.cached (mint task) = some decimals
    | .releasing _ =>
      ∀ other, mint other = mint task → (state.calls other).stage.resolves = none
    | _ => True
  | .write key decimals =>
    decimals ≤ maxDecimals → Owed mint state key → state.cached key = some decimals
  | .evict key => ¬Owed mint state key
  | .forget _ => True

/-- What a call may be told: it began no fetch, and it finds the outcome in the cache, or has found
it. -/
def Kept (state : State τ κ) (key : κ) (call : Call κ) : Prop :=
  ∀ outcome, call.waited = some outcome → call.fetched = false ∧
    (call.stage.pending = true ∧ state.failed key = false ∧
        (∃ decimals, outcome = some decimals ∧ state.cached key = some decimals) ∨
      call.stage.outcome = some outcome)

/-- **Sound**: a lock is that of the mint and has one holder, a mint is resolved under its own
lock, and by nobody while a call that waited is yet to look at the cache. -/
structure Sound (state : State τ κ) : Prop where
  keyed : ∀ task lock, (state.calls task).stage.claims = some lock → lock.mint = mint task
  held : ∀ task lock, (state.calls task).stage.holds = some lock → state.held lock = true
  alone : ∀ task task' lock, (state.calls task).stage.holds = some lock →
    (state.calls task').stage.holds = some lock → task = task'
  current : ∀ task lock, (state.calls task).stage.resolves = some lock →
    lockOf state.locks (mint task) = some lock
  cached : ∀ key decimals, state.cached key = some decimals → decimals ≤ maxDecimals
  carried : ∀ task decimals, (state.calls task).stage.decimals = some decimals →
    decimals ≤ maxDecimals
  begun : ∀ task, (state.calls task).fetched = true → (state.calls task).stage.begun = true
  kept : ∀ task, Kept state (mint task) (state.calls task)
  quiet : ∀ task, Owed mint state (mint task) → (state.calls task).stage.resolves = none

end Care

/-! ## The stages -/

section Stages

variable {κ : Type*} {stage : Stage κ} {lock : Lock κ}

lemma holds_of_resolves (h : stage.resolves = some lock) : stage.holds = some lock := by
  cases stage <;> simp_all [Stage.resolves, Stage.holds]

lemma claims_of_holds (h : stage.holds = some lock) : stage.claims = some lock := by
  cases stage <;> simp_all [Stage.claims, Stage.holds]

lemma claims_of_resolves (h : stage.resolves = some lock) : stage.claims = some lock :=
  claims_of_holds (holds_of_resolves h)

lemma resolves_of_holds (h : stage.holds = none) : stage.resolves = none := by
  cases stage <;> simp_all [Stage.resolves, Stage.holds]

lemma of_early (h : stage.early = true) :
    stage.begun = false ∧ stage.pending = false ∧ stage.outcome = none := by
  cases stage <;> simp_all [Stage.early, Stage.begun, Stage.pending, Stage.outcome]

lemma resolves_of_pending (h : stage.pending = true) : stage.resolves = none := by
  cases stage <;> simp_all [Stage.resolves, Stage.pending]

lemma absent_of_pending (h : stage.pending = true) :
    stage.begun = false ∧ stage.outcome = none := by
  cases stage <;> simp_all [Stage.begun, Stage.outcome, Stage.pending]

lemma outcome_of_resolves (h : stage.resolves = some lock) : stage.outcome = none := by
  cases stage <;> simp_all [Stage.resolves, Stage.outcome]

@[simp]
lemma stage_tell [DecidableEq κ] (call : Call κ) (lock : Lock κ) (result : Option ℕ) :
    (call.tell lock result).stage = call.stage := by
  unfold Call.tell
  split
  case h_1 awaited _ => split_ifs <;> rfl
  case h_2 => rfl

@[simp]
lemma fetched_tell [DecidableEq κ] (call : Call κ) (lock : Lock κ) (result : Option ℕ) :
    (call.tell lock result).fetched = call.fetched := by
  unfold Call.tell
  split
  case h_1 awaited _ => split_ifs <;> rfl
  case h_2 => rfl

lemma waited_tell [DecidableEq κ] (call : Call κ) (lock : Lock κ) (result : Option ℕ) :
    call.stage = .waiting lock ∧ (call.tell lock result).waited = some result ∨
      (call.tell lock result).waited = call.waited := by
  unfold Call.tell
  split
  case h_1 awaited hstage =>
    by_cases hlock : awaited = lock
    · subst hlock
      exact Or.inl ⟨hstage, by rw [if_pos rfl]⟩
    · exact Or.inr (by rw [if_neg hlock])
  case h_2 => exact Or.inr rfl

end Stages

/-! ## The locks -/

section Locks

variable {κ : Type*} [DecidableEq κ] {locks : List (Lock κ)} {key other : κ}

lemma mint_of_lockOf {lock : Lock κ} (h : lockOf locks key = some lock) : lock.mint = key := by
  have hfound := List.find?_some h
  exact of_decide_eq_true hfound

lemma lockOf_cons_of_ne {lock : Lock κ} (h : lock.mint ≠ key) :
    lockOf (lock :: locks) key = lockOf locks key :=
  List.find?_cons_of_neg (by simpa using h)

lemma lockOf_filter (h : other ≠ key) :
    lockOf (locks.filter (·.mint ≠ key)) other = lockOf locks other := by
  unfold lockOf
  rw [List.find?_filter]
  congr 1
  funext lock
  by_cases hlock : lock.mint = other
  · simp [hlock, h]
  · simp [hlock]

end Locks

section Run

variable {τ κ : Type*} [DecidableEq κ] {isNative : κ → Bool} {mint : τ → κ} {state : State τ κ}
  {task task' : τ}

lemma Sound.one (h : Sound mint state) {lock lock' : Lock κ}
    (htask : (state.calls task).stage.resolves = some lock)
    (htask' : (state.calls task').stage.resolves = some lock') (hmint : mint task = mint task') :
    task = task' := by
  have hlock := h.current task lock htask
  rw [hmint, h.current task' lock' htask'] at hlock
  obtain rfl := Option.some.inj hlock
  exact h.alone task task' _ (holds_of_resolves htask) (holds_of_resolves htask')

lemma Sound.waited_of_resolves (h : Sound mint state) {lock : Lock κ}
    (hresolves : (state.calls task).stage.resolves = some lock) :
    (state.calls task).waited = none := by
  apply Option.eq_none_iff_forall_ne_some.mpr
  intro outcome hwaited
  rcases (h.kept task outcome hwaited).2 with ⟨hpending, -⟩ | houtcome
  · rw [resolves_of_pending hpending] at hresolves
    cases hresolves
  · rw [outcome_of_resolves hresolves] at houtcome
    cases houtcome

lemma Sound.finds (h : Sound mint state) {outcome : Option ℕ}
    (hpending : (state.calls task).stage.pending = true)
    (hwaited : (state.calls task).waited = some outcome) :
    state.failed (mint task) = false ∧
      ∃ decimals, outcome = some decimals ∧ state.cached (mint task) = some decimals := by
  rcases (h.kept task outcome hwaited).2 with ⟨-, hfound⟩ | houtcome
  · exact hfound
  · rw [(absent_of_pending hpending).2] at houtcome
    cases houtcome

lemma Sound.own (h : Sound mint state) {lock : Lock κ}
    (hholds : (state.calls task).stage.holds = some lock) :
    state.held lock = true ∧
      ∀ other, (state.calls other).stage.holds = some lock → other = task :=
  ⟨h.held task lock hholds, fun other hother => h.alone other task lock hother hholds⟩

omit [DecidableEq κ] in
lemma kept_of_waited {key : κ} {call : Call κ} (hwaited : call.waited = none) :
    Kept state key call := by
  intro outcome houtcome
  rw [hwaited] at houtcome
  cases houtcome

lemma Sound.of_early (h : Sound mint state) (hearly : (state.calls task).stage.early = true) :
    (state.calls task).waited = none ∧ (state.calls task).fetched = false := by
  obtain ⟨hbegun, hpending, houtcome⟩ := Decimals.of_early hearly
  constructor
  · apply Option.eq_none_iff_forall_ne_some.mpr
    intro outcome hwaited
    rcases (h.kept task outcome hwaited).2 with ⟨hnow, -⟩ | hfound
    · rw [hpending] at hnow
      cases hnow
    · rw [houtcome] at hfound
      cases hfound
  · apply Bool.eq_false_iff.mpr
    intro hfetched
    rw [h.begun task hfetched] at hbegun
    cases hbegun

lemma Sound.resolved (h : Sound mint state) : Resolved isNative mint state where
  single := by
    intro task task' lock lock' htask htask' hmint
    have hresolves : (state.calls task).stage.resolves = some lock := by rw [htask]; rfl
    have hresolves' : (state.calls task').stage.resolves = some lock' := by rw [htask']; rfl
    exact h.one hresolves hresolves' hmint
  joined := by
    intro task outcome hwaited
    obtain ⟨hfetched, hkept⟩ := h.kept task outcome hwaited
    refine ⟨hfetched, fun result hreturned => ?_⟩
    rw [hreturned] at hkept
    rcases hkept with ⟨hpending, -⟩ | houtcome
    · cases hpending
    · exact Option.some.inj houtcome
  returned := by
    intro task decimals hreturned
    refine h.carried task decimals ?_
    rw [hreturned]
    rfl
  cached := by
    intro key decimals hcached
    unfold getCached at hcached
    split_ifs at hcached
    case pos => obtain rfl := Option.some.inj hcached; decide
    case neg => exact h.cached key decimals hcached

/-! ## What a step keeps -/

/-- What a call must be for a sound state to stay sound with it. -/
structure Fits (mint : τ → κ) (state : State τ κ) (task : τ) (call : Call κ) : Prop where
  keyed : ∀ lock, call.stage.claims = some lock → lock.mint = mint task
  held : ∀ lock, call.stage.holds = some lock → state.held lock = true ∧
    ∀ other, (state.calls other).stage.holds = some lock → other = task
  current : ∀ lock, call.stage.resolves = some lock →
    lockOf state.locks (mint task) = some lock ∧ ¬Owed mint state (mint task)
  carried : ∀ decimals, call.stage.decimals = some decimals → decimals ≤ maxDecimals
  begun : call.fetched = true → call.stage.begun = true
  kept : Kept state (mint task) call
  quiet : call.stage.pending = true → call.waited ≠ none →
    ∀ other, mint other = mint task → other ≠ task → (state.calls other).stage.resolves = none

lemma Sound.store (h : Sound mint state) {key : κ} {decimals : Option ℕ}
    (hrange : ∀ value ∈ decimals, value ≤ maxDecimals)
    (howed : Owed mint state key → state.cached key = decimals) :
    Sound mint (state.store key decimals) where
  keyed := h.keyed
  held := h.held
  alone := h.alone
  current := h.current
  cached := by
    intro other value (hcached : Function.update state.cached key decimals other = some value)
    by_cases hother : other = key
    · subst hother
      rw [update_self] at hcached
      exact hrange value hcached
    · rw [update_of_ne hother] at hcached
      exact h.cached other value hcached
  carried := h.carried
  begun := h.begun
  kept := by
    intro other outcome hwaited
    obtain ⟨hfetched, hkept⟩ := h.kept other outcome hwaited
    refine ⟨hfetched, hkept.imp_left ?_⟩
    rintro ⟨hpending, hfailed, value, hvalue, hcached⟩
    refine ⟨hpending, hfailed, value, hvalue, ?_⟩
    by_cases hother : mint other = key
    · have hsame := howed ⟨other, hother, hpending, fun hnone => by cases hnone.symm.trans hwaited⟩
      rw [hother] at hcached ⊢
      exact (update_self _ _ _).trans (hsame.symm.trans hcached)
    · exact (update_of_ne hother _ _).trans hcached
  quiet := h.quiet

lemma Sound.flag (h : Sound mint state) {key : κ} {failure : Bool}
    (howed : Owed mint state key → failure = false) : Sound mint (state.flag key failure) where
  keyed := h.keyed
  held := h.held
  alone := h.alone
  current := h.current
  cached := h.cached
  carried := h.carried
  begun := h.begun
  kept := by
    intro other outcome hwaited
    obtain ⟨hfetched, hkept⟩ := h.kept other outcome hwaited
    refine ⟨hfetched, hkept.imp_left ?_⟩
    rintro ⟨hpending, hfailed, hvalue⟩
    refine ⟨hpending, ?_, hvalue⟩
    by_cases hother : mint other = key
    · have hnot := howed ⟨other, hother, hpending, fun hnone => by cases hnone.symm.trans hwaited⟩
      rw [hother]
      exact (update_self _ _ _).trans hnot
    · exact (update_of_ne hother _ _).trans hfailed
  quiet := h.quiet

lemma Sound.relock (h : Sound mint state) {locks : List (Lock κ)} {made : ℕ}
    (hlocks : ∀ task lock, (state.calls task).stage.resolves = some lock →
      lockOf locks (mint task) = lockOf state.locks (mint task)) :
    Sound mint (state.relock locks made) where
  keyed := h.keyed
  held := h.held
  alone := h.alone
  current := fun task lock hresolves => (hlocks task lock hresolves).trans
    (h.current task lock hresolves)
  cached := h.cached
  carried := h.carried
  begun := h.begun
  kept := h.kept
  quiet := h.quiet

lemma Sound.hold (h : Sound mint state) {lock : Lock κ} {taken : Bool}
    (hfree : ∀ task, (state.calls task).stage.holds ≠ some lock) :
    Sound mint (state.hold lock taken) where
  keyed := h.keyed
  held := by
    intro task lock' hholds
    have hne : lock' ≠ lock := by
      rintro rfl
      exact hfree task hholds
    exact (update_of_ne hne _ _).trans (h.held task lock' hholds)
  alone := h.alone
  current := h.current
  cached := h.cached
  carried := h.carried
  begun := h.begun
  kept := h.kept
  quiet := h.quiet

variable {result : Option ℕ}

lemma Sound.tell (h : Sound mint state) {lock : Lock κ}
    (hcached : (∃ other, (state.calls other).stage = .waiting lock) → state.failed lock.mint =
      false ∧ ∃ decimals, result = some decimals ∧ state.cached lock.mint = some decimals)
    (hquiet : ∀ other, mint other = lock.mint → (state.calls other).stage.resolves = none) :
    Sound mint (state.tell lock result) where
  keyed := fun other lock' hclaims => h.keyed other lock' (by simpa [State.tell] using hclaims)
  held := fun other lock' hholds => h.held other lock' (by simpa [State.tell] using hholds)
  alone := fun other other' lock' hholds hholds' => h.alone other other' lock'
    (by simpa [State.tell] using hholds) (by simpa [State.tell] using hholds')
  current := fun other lock' hresolves => h.current other lock'
    (by simpa [State.tell] using hresolves)
  cached := h.cached
  carried := fun other decimals hdecimals => h.carried other decimals
    (by simpa [State.tell] using hdecimals)
  begun := fun other => by simpa [State.tell] using h.begun other
  kept := by
    intro other outcome hwaited
    simp only [State.tell, stage_tell, fetched_tell] at hwaited ⊢
    rcases waited_tell (state.calls other) lock result with ⟨hwaiting, htold⟩ | hsame
    · -- it waits, so it has begun nothing and will find the value
      obtain ⟨hfailed, hvalue⟩ := hcached ⟨other, hwaiting⟩
      have hmint : lock.mint = mint other := h.keyed other lock (by rw [hwaiting]; rfl)
      rw [htold] at hwaited
      obtain rfl := Option.some.inj hwaited
      refine ⟨?_, Or.inl ⟨by rw [hwaiting]; rfl, hmint ▸ hfailed, hmint ▸ hvalue⟩⟩
      apply Bool.eq_false_iff.mpr
      intro hfetched
      have hbegun := h.begun other hfetched
      rw [hwaiting] at hbegun
      cases hbegun
    · rw [hsame] at hwaited
      exact h.kept other outcome hwaited
  quiet := by
    rintro other ⟨owed, hmint, hpending, hwaited⟩
    simp only [State.tell, stage_tell] at hpending hwaited ⊢
    rcases waited_tell (state.calls owed) lock result with ⟨hwaiting, -⟩ | hsame
    · have hlock : lock.mint = mint owed := h.keyed owed lock (by rw [hwaiting]; rfl)
      exact hquiet other (hmint.symm.trans hlock.symm)
    · rw [hsame] at hwaited
      exact h.quiet other ⟨owed, hmint, hpending, hwaited⟩

variable [DecidableEq τ]

section

variable (h : Sound mint state)
include h

lemma Sound.set {call : Call κ} (hfits : Fits mint state task call) :
    Sound mint (state.set task call) := by
  have hcall : ∀ other, other = task ∧ (state.set task call).calls other = call ∨
      other ≠ task ∧ (state.set task call).calls other = state.calls other := by
    intro other
    by_cases hother : other = task
    · exact Or.inl ⟨hother, by rw [hother]; exact update_self _ _ _⟩
    · exact Or.inr ⟨hother, update_of_ne hother _ _⟩
  -- a call that is owed an outcome was owed it before, or is the one that went on
  have howed : ∀ key, Owed mint (state.set task call) key → Owed mint state key ∨
      key = mint task ∧ call.stage.pending = true ∧ call.waited ≠ none := by
    rintro key ⟨other, rfl, hpending, hwaited⟩
    rcases hcall other with ⟨rfl, hcalls⟩ | ⟨-, hcalls⟩
    · rw [hcalls] at hpending hwaited
      exact Or.inr ⟨rfl, hpending, hwaited⟩
    · rw [hcalls] at hpending hwaited
      exact Or.inl ⟨other, rfl, hpending, hwaited⟩
  constructor
  case keyed =>
    intro other lock hclaims
    rcases hcall other with ⟨rfl, hcalls⟩ | ⟨-, hcalls⟩
    · rw [hcalls] at hclaims
      exact hfits.keyed lock hclaims
    · rw [hcalls] at hclaims
      exact h.keyed other lock hclaims
  case held =>
    intro other lock hholds
    rcases hcall other with ⟨rfl, hcalls⟩ | ⟨-, hcalls⟩
    · rw [hcalls] at hholds
      exact (hfits.held lock hholds).1
    · rw [hcalls] at hholds
      exact h.held other lock hholds
  case alone =>
    intro other other' lock hholds hholds'
    rcases hcall other with ⟨rfl, hcalls⟩ | ⟨-, hcalls⟩
    · rw [hcalls] at hholds
      rcases hcall other' with ⟨rfl, -⟩ | ⟨-, hcalls'⟩
      · rfl
      · rw [hcalls'] at hholds'
        exact ((hfits.held lock hholds).2 other' hholds').symm
    · rw [hcalls] at hholds
      rcases hcall other' with ⟨rfl, hcalls'⟩ | ⟨-, hcalls'⟩
      · rw [hcalls'] at hholds'
        exact (hfits.held lock hholds').2 other hholds
      · rw [hcalls'] at hholds'
        exact h.alone other other' lock hholds hholds'
  case current =>
    intro other lock hresolves
    rcases hcall other with ⟨rfl, hcalls⟩ | ⟨-, hcalls⟩
    · rw [hcalls] at hresolves
      exact (hfits.current lock hresolves).1
    · rw [hcalls] at hresolves
      exact h.current other lock hresolves
  case cached => exact h.cached
  case carried =>
    intro other decimals hdecimals
    rcases hcall other with ⟨rfl, hcalls⟩ | ⟨-, hcalls⟩
    · rw [hcalls] at hdecimals
      exact hfits.carried decimals hdecimals
    · rw [hcalls] at hdecimals
      exact h.carried other decimals hdecimals
  case begun =>
    intro other
    rcases hcall other with ⟨rfl, hcalls⟩ | ⟨-, hcalls⟩
    · rw [hcalls]
      exact hfits.begun
    · rw [hcalls]
      exact h.begun other
  case kept =>
    intro other
    rcases hcall other with ⟨rfl, hcalls⟩ | ⟨-, hcalls⟩
    · rw [hcalls]
      exact hfits.kept
    · rw [hcalls]
      exact h.kept other
  case quiet =>
    intro other howed'
    rcases hcall other with ⟨rfl, hcalls⟩ | ⟨hother, hcalls⟩
    · rw [hcalls]
      rcases howed _ howed' with hbefore | ⟨-, hpending, -⟩
      · apply Option.eq_none_iff_forall_ne_some.mpr
        intro lock hresolves
        exact (hfits.current lock hresolves).2 hbefore
      · exact resolves_of_pending hpending
    · rw [hcalls]
      rcases howed _ howed' with hbefore | ⟨hmint, hpending, hwaited⟩
      · exact h.quiet other hbefore
      · exact hfits.quiet hpending hwaited other hmint hother

lemma Sound.move {stage : Stage κ}
    (hkeyed : ∀ lock, stage.claims = some lock → lock.mint = mint task)
    (hheld : ∀ lock, stage.holds = some lock →
      state.held lock = true ∧ ∀ other, (state.calls other).stage.holds = some lock → other = task)
    (hcurrent : ∀ lock, stage.resolves = some lock →
      lockOf state.locks (mint task) = some lock ∧ ¬Owed mint state (mint task))
    (hcarried : ∀ decimals, stage.decimals = some decimals → decimals ≤ maxDecimals)
    (hbegun : (state.calls task).fetched = true → stage.begun = true)
    (hkept : Kept state (mint task) { state.calls task with stage := stage })
    (hpending : (state.calls task).waited ≠ none → stage.pending = true →
      (state.calls task).stage.pending = true) :
    Sound mint (state.move task stage) := by
  refine h.set ⟨hkeyed, hheld, hcurrent, hcarried, hbegun, hkept, ?_⟩
  intro hnow hwaited other hmint _
  exact h.quiet other ⟨task, hmint.symm, hpending hwaited hnow, hwaited⟩

lemma Sound.move_early {stage : Stage κ} (hearly : (state.calls task).stage.early = true)
    (hholds : stage.holds = none)
    (hkeyed : ∀ lock, stage.claims = some lock → lock.mint = mint task)
    (hcarried : ∀ decimals, stage.decimals = some decimals → decimals ≤ maxDecimals) :
    Sound mint (state.move task stage) := by
  obtain ⟨hwaited, hfetched⟩ := h.of_early hearly
  refine h.move hkeyed ?_ ?_ hcarried ?_ (kept_of_waited hwaited) ?_
  · intro lock hlock
    rw [hholds] at hlock
    cases hlock
  · intro lock hlock
    rw [resolves_of_holds hholds] at hlock
    cases hlock
  · intro hbegun
    rw [hfetched] at hbegun
    cases hbegun
  · exact fun hnone => absurd hwaited hnone

lemma Sound.move_resolving {stage : Stage κ} {lock : Lock κ}
    (hbefore : (state.calls task).stage.resolves = some lock)
    (hresolves : stage.resolves = some lock)
    (hcarried : ∀ decimals, stage.decimals = some decimals → decimals ≤ maxDecimals)
    {fetched : Bool} (hbegun : fetched = true → stage.begun = true) :
    Sound mint
      (state.set task { state.calls task with stage := stage, fetched := fetched }) := by
  have hwaited := h.waited_of_resolves hbefore
  refine h.set ⟨?_, ?_, ?_, hcarried, hbegun, kept_of_waited hwaited, ?_⟩
  · intro lock' hclaims
    obtain rfl := Option.some.inj ((claims_of_resolves hresolves).symm.trans hclaims)
    exact h.keyed task lock (claims_of_resolves hbefore)
  · intro lock' hholds
    obtain rfl := Option.some.inj ((holds_of_resolves hresolves).symm.trans hholds)
    exact h.own (holds_of_resolves hbefore)
  · intro lock' hlock
    obtain rfl := Option.some.inj (hresolves.symm.trans hlock)
    refine ⟨h.current task lock hbefore, fun howed => ?_⟩
    rw [h.quiet task howed] at hbefore
    cases hbefore
  · exact fun _ hnone => absurd hwaited hnone

lemma Sound.move_resolve {lock : Lock κ} (hpending : (state.calls task).stage.pending = true)
    (hholds : (state.calls task).stage.holds = some lock)
    (hlock : lockOf state.locks (mint task) = some lock)
    (hnothing : state.failed (mint task) = false → state.cached (mint task) = none) :
    Sound mint (state.move task (.askServer lock)) := by
  have howed : ¬Owed mint state (mint task) := by
    rintro ⟨other, hmint, hother, hwaited⟩
    obtain ⟨outcome, houtcome⟩ := Option.ne_none_iff_exists'.mp hwaited
    obtain ⟨hfailed, value, -, hcached⟩ := h.finds hother houtcome
    rw [hmint] at hfailed hcached
    rw [hnothing hfailed] at hcached
    cases hcached
  have hwaited : (state.calls task).waited = none := by
    by_contra hwaited
    exact howed ⟨task, rfl, hpending, hwaited⟩
  refine h.move ?_ ?_ ?_ ?_ ?_ (kept_of_waited hwaited) ?_
  · rintro lock' ⟨⟩
    exact h.keyed task lock (claims_of_holds hholds)
  · rintro lock' ⟨⟩
    exact h.own hholds
  · rintro lock' ⟨⟩
    exact ⟨hlock, howed⟩
  · rintro decimals ⟨⟩
  · intro hfetched
    have hbegun := h.begun task hfetched
    rw [(absent_of_pending hpending).1] at hbegun
    cases hbegun
  · exact fun hnone => absurd hwaited hnone

end

/-! ## Every step -/

omit [DecidableEq τ] in
lemma lockOf_keptLocks
    (hcareful : maxFetchLocks < state.locks.length →
      ∀ other, (state.calls other).stage.resolves = none) {lock : Lock κ}
    (hresolves : (state.calls task).stage.resolves = some lock) :
    lockOf (keptLocks state) (mint task) = lockOf state.locks (mint task) := by
  unfold keptLocks
  split_ifs with hlength
  · rw [hcareful hlength task] at hresolves
    cases hresolves
  · rfl

lemma Sound.fetchLockFor (h : Sound mint state) (hearly : (state.calls task).stage.early = true)
    (hcareful : maxFetchLocks < state.locks.length →
      ∀ other, (state.calls other).stage.resolves = none) :
    Sound mint (fetchLockFor mint state task) := by
  unfold Decimals.fetchLockFor
  cases hlock : lockOf (keptLocks state) (mint task) with
  | some lock =>
    have hkept : Sound mint (state.relock (keptLocks state) state.made) :=
      h.relock fun other lock' hresolves => lockOf_keptLocks hcareful hresolves
    refine hkept.move_early hearly rfl ?_ ?_
    · rintro lock' ⟨⟩
      exact mint_of_lockOf hlock
    · rintro decimals ⟨⟩
  | none =>
    have hkept : Sound mint
        (state.relock (⟨mint task, state.made⟩ :: keptLocks state) (state.made + 1)) := by
      apply h.relock
      intro other lock' hresolves
      have hsame : lockOf (keptLocks state) (mint other) = lockOf state.locks (mint other) :=
        lockOf_keptLocks hcareful hresolves
      have hother : mint task ≠ mint other := by
        intro hmint
        rw [← hmint, hlock, hmint, h.current other lock' hresolves] at hsame
        cases hsame
      exact (lockOf_cons_of_ne hother).trans hsame
    refine hkept.move_early hearly rfl ?_ ?_
    · rintro lock' ⟨⟩
      rfl
    · rintro decimals ⟨⟩

variable {answer : Option ℕ}

section

variable (h : Sound mint state)
include h

lemma Sound.advance_early (hearly : (state.calls task).stage.early = true)
    (hcareful : Careful mint state (.advance task answer)) :
    Sound mint (advance isNative mint state task answer) := by
  cases hstage : (state.calls task).stage with
  | start =>
    simp only [advance, hstage]
    split_ifs
    · exact h.move_early hearly rfl (by rintro _ ⟨⟩) (by rintro _ ⟨⟩; decide)
    · exact h.move_early hearly rfl (by rintro _ ⟨⟩) (by rintro _ ⟨⟩)
    · exact h.move_early hearly rfl (by rintro _ ⟨⟩) (by rintro _ ⟨⟩)
  | readCache =>
    simp only [advance, hstage]
    cases hcached : state.cached (mint task) with
    | some decimals =>
      refine h.move_early hearly rfl (by rintro _ ⟨⟩) ?_
      rintro _ ⟨⟩
      exact h.cached _ _ hcached
    | none => exact h.move_early hearly rfl (by rintro _ ⟨⟩) (by rintro _ ⟨⟩)
  | checkFailure =>
    simp only [advance, hstage]
    split_ifs
    · exact h.move_early hearly rfl (by rintro _ ⟨⟩) (by rintro _ ⟨⟩)
    · exact h.move_early hearly rfl (by rintro _ ⟨⟩) (by rintro _ ⟨⟩)
  | askDb =>
    simp only [Careful, hstage] at hcareful
    simp only [advance, hstage]
    cases hanswer : positive answer with
    | some decimals =>
      refine h.move_early hearly rfl (by rintro _ ⟨⟩) ?_
      rintro _ ⟨⟩
      exact hcareful decimals (Option.filter_eq_some_iff.mp hanswer).1
    | none => exact h.move_early hearly rfl (by rintro _ ⟨⟩) (by rintro _ ⟨⟩)
  | cacheDb decimals =>
    simp only [Careful, hstage] at hcareful
    have hrange := h.carried task decimals (by rw [hstage]; rfl)
    simp only [advance, hstage, if_pos hrange]
    have hstored : Sound mint (state.store (mint task) (some decimals)) :=
      h.store (by rintro _ ⟨⟩; exact hrange) hcareful
    refine hstored.move_early hearly rfl (by rintro _ ⟨⟩) ?_
    rintro _ ⟨⟩
    exact hrange
  | clearDb decimals =>
    have hrange := h.carried task decimals (by rw [hstage]; rfl)
    simp only [advance, hstage]
    have hcleared : Sound mint (state.flag (mint task) false) := h.flag fun _ => rfl
    refine hcleared.move_early hearly rfl (by rintro _ ⟨⟩) ?_
    rintro _ ⟨⟩
    exact hrange
  | fetchLock =>
    simp only [Careful, hstage] at hcareful
    simp only [advance, hstage]
    exact h.fetchLockFor hearly hcareful
  | _ =>
    rw [hstage] at hearly
    cases hearly

lemma Sound.move_pending {stage : Stage κ} {lock : Lock κ}
    (hpending : (state.calls task).stage.pending = true)
    (hclaims : (state.calls task).stage.claims = some lock) (hstage : stage.holds = some lock)
    (hheld : state.held lock = true ∧ ∀ other, (state.calls other).stage.holds = some lock →
      other = task)
    (hnow : stage.pending = true) : Sound mint (state.move task stage) := by
  have hdecimals : stage.decimals = none := by
    cases stage <;> simp_all [Stage.decimals, Stage.pending]
  refine h.move ?_ ?_ ?_ ?_ ?_ ?_ ?_
  · intro lock' hlock
    obtain rfl := Option.some.inj ((claims_of_holds hstage).symm.trans hlock)
    exact h.keyed task lock hclaims
  · intro lock' hlock
    obtain rfl := Option.some.inj (hstage.symm.trans hlock)
    exact hheld
  · intro lock' hlock
    rw [resolves_of_pending hnow] at hlock
    cases hlock
  · intro decimals hsome
    rw [hdecimals] at hsome
    cases hsome
  · intro hfetched
    have hbegun := h.begun task hfetched
    rw [(absent_of_pending hpending).1] at hbegun
    cases hbegun
  · intro outcome hwaited
    exact ⟨(h.kept task outcome hwaited).1, Or.inl ⟨hnow, h.finds hpending hwaited⟩⟩
  · exact fun _ _ => hpending

lemma Sound.advance_pending (hpending : (state.calls task).stage.pending = true)
    (hcareful : Careful mint state (.advance task answer)) :
    Sound mint (advance isNative mint state task answer) := by
  cases hstage : (state.calls task).stage with
  | waiting lock =>
    simp only [advance, hstage]
    split_ifs with htaken
    · exact h
    · have hfree : ∀ other, (state.calls other).stage.holds ≠ some lock :=
        fun other hholds => htaken (h.held other lock hholds)
      have htaken' : Sound mint (state.hold lock true) := h.hold hfree
      have hclaims : (state.calls task).stage.claims = some lock := congrArg Stage.claims hstage
      refine htaken'.move_pending hpending hclaims rfl ?_ rfl
      exact ⟨update_self _ _ _, fun other hholds => absurd hholds (hfree other)⟩
  | recheckFailure lock =>
    have hholds : (state.calls task).stage.holds = some lock := by rw [hstage]; rfl
    simp only [Careful, hstage] at hcareful
    simp only [advance, hstage]
    split_ifs with hfailed
    · refine h.move_resolve hpending hholds ?_ ?_
      · by_contra hlock
        rw [hcareful hlock] at hfailed
        cases hfailed
      · intro hnot
        rw [hnot] at hfailed
        cases hfailed
    · exact h.move_pending hpending (claims_of_holds hholds) rfl (h.own hholds) rfl
  | recheckCache lock =>
    have hholds : (state.calls task).stage.holds = some lock := by rw [hstage]; rfl
    simp only [Careful, hstage] at hcareful
    simp only [advance, hstage]
    cases hcached : state.cached (mint task) with
    | none =>
      refine h.move_resolve hpending hholds ?_ fun _ => hcached
      by_contra hlock
      exact hcareful hlock hcached
    | some decimals =>
      refine h.move ?_ ?_ ?_ ?_ ?_ ?_ ?_
      · rintro lock' ⟨⟩
        exact h.keyed task lock (claims_of_holds hholds)
      · rintro lock' ⟨⟩
        exact h.own hholds
      · rintro lock' ⟨⟩
      · rintro decimals' ⟨⟩
        exact h.cached _ _ hcached
      · intro hfetched
        have hbegun := h.begun task hfetched
        rw [(absent_of_pending hpending).1] at hbegun
        cases hbegun
      · -- it returns what it was told
        intro outcome hwaited
        obtain ⟨-, value, rfl, hvalue⟩ := h.finds hpending hwaited
        refine ⟨(h.kept task _ hwaited).1, Or.inr ?_⟩
        exact congrArg some (hcached.symm.trans hvalue)
      · rintro - ⟨⟩
  | _ =>
    rw [hstage] at hpending
    cases hpending

lemma Sound.advance_resolving {lock : Lock κ}
    (hresolves : (state.calls task).stage.resolves = some lock)
    (hnot : ∀ result, (state.calls task).stage ≠ .unlocking lock result)
    (hcareful : Careful mint state (.advance task answer)) :
    Sound mint (advance isNative mint state task answer) := by
  have howed : ¬Owed mint state (mint task) := by
    intro howed
    rw [h.quiet task howed] at hresolves
    cases hresolves
  -- a call that is at work writes what nobody was told of yet
  have hstored : ∀ decimals ≤ maxDecimals,
      Sound mint (state.store (mint task) (some decimals)) :=
    fun decimals hrange => h.store (by rintro _ ⟨⟩; exact hrange) fun hnow => absurd hnow howed
  have hcleared : Sound mint (state.flag (mint task) false) := h.flag fun _ => rfl
  have hmarked : Sound mint (state.flag (mint task) true) :=
    h.flag fun hnow => absurd hnow howed
  cases hstage : (state.calls task).stage with
  | askServer lock' =>
    obtain rfl : lock' = lock := Option.some.inj (by rwa [hstage] at hresolves)
    simp only [Careful, hstage] at hcareful
    simp only [advance, hstage]
    cases hanswer : byte answer with
    | some decimals =>
      exact h.move_resolving hresolves rfl (by rintro _ ⟨⟩; exact hcareful _ hanswer)
        fun _ => rfl
    | none => exact h.move_resolving hresolves rfl (by rintro _ ⟨⟩) fun _ => rfl
  | fetching lock' =>
    obtain rfl : lock' = lock := Option.some.inj (by rwa [hstage] at hresolves)
    simp only [Careful, hstage] at hcareful
    simp only [advance, hstage]
    cases answer with
    | some decimals =>
      exact h.move_resolving hresolves rfl (by rintro _ ⟨⟩; exact hcareful _ rfl)
        fun _ => rfl
    | none => exact h.move_resolving hresolves rfl (by rintro _ ⟨⟩) fun _ => rfl
  | askRugcheck lock' =>
    obtain rfl : lock' = lock := Option.some.inj (by rwa [hstage] at hresolves)
    simp only [Careful, hstage] at hcareful
    simp only [advance, hstage]
    cases hanswer : positive answer with
    | some decimals =>
      refine h.move_resolving hresolves rfl ?_ fun _ => rfl
      rintro _ ⟨⟩
      exact hcareful decimals (Option.filter_eq_some_iff.mp hanswer).1
    | none => exact h.move_resolving hresolves rfl (by rintro _ ⟨⟩) fun _ => rfl
  | caching lock' decimals =>
    obtain rfl : lock' = lock := Option.some.inj (by rwa [hstage] at hresolves)
    have hrange := h.carried task decimals (by rw [hstage]; rfl)
    simp only [advance, hstage, if_pos hrange]
    exact (hstored decimals hrange).move_resolving hresolves rfl
      (by rintro _ ⟨⟩; exact hrange) fun _ => rfl
  | clearing lock' decimals | persisted lock' decimals =>
    obtain rfl : lock' = lock := Option.some.inj (by rwa [hstage] at hresolves)
    have hrange := h.carried task decimals (by rw [hstage]; rfl)
    simp only [advance, hstage]
    exact hcleared.move_resolving hresolves rfl (by rintro _ ⟨⟩; exact hrange) fun _ => rfl
  | persisting lock' decimals =>
    obtain rfl : lock' = lock := Option.some.inj (by rwa [hstage] at hresolves)
    have hrange := h.carried task decimals (by rw [hstage]; rfl)
    simp only [advance, hstage]
    split_ifs
    · exact (hstored decimals hrange).move_resolving hresolves rfl
        (by rintro _ ⟨⟩; exact hrange) fun _ => rfl
    · exact h.move_resolving hresolves rfl (by rintro _ ⟨⟩; exact hrange) fun _ => rfl
  | marking lock' =>
    obtain rfl : lock' = lock := Option.some.inj (by rwa [hstage] at hresolves)
    simp only [advance, hstage]
    exact hmarked.move_resolving hresolves rfl (by rintro _ ⟨⟩) fun _ => rfl
  | unlocking lock' result =>
    obtain rfl : lock' = lock := Option.some.inj (by rwa [hstage] at hresolves)
    exact absurd hstage (hnot result)
  | _ =>
    rw [hstage] at hresolves
    cases hresolves

lemma Sound.free_move {stage : Stage κ} {lock : Lock κ}
    (hholds : (state.calls task).stage.holds = some lock) (hstage : stage.holds = none) (other : τ) :
    ((state.move task stage).calls other).stage.holds ≠ some lock := by
  intro hother
  by_cases hsame : other = task
  · subst hsame
    have hcall : (state.move other stage).calls other = { state.calls other with stage := stage } :=
      update_self _ _ _
    rw [hcall, hstage] at hother
    cases hother
  · have hcall : (state.move task stage).calls other = state.calls other :=
      update_of_ne hsame _ _
    rw [hcall] at hother
    exact hsame (h.alone other task lock hother hholds)

lemma Sound.advance_hit {lock : Lock κ} {decimals : ℕ}
    (hstage : (state.calls task).stage = .hit lock decimals) :
    Sound mint (advance isNative mint state task answer) := by
  simp only [advance, hstage]
  have hmoved : Sound mint (state.move task (.releasing (some decimals))) := by
    refine h.move (by rintro _ ⟨⟩) (by rintro _ ⟨⟩) (by rintro _ ⟨⟩) ?_ (fun _ => rfl) ?_ ?_
    · rintro _ ⟨⟩
      exact h.carried task decimals (by rw [hstage]; rfl)
    · intro outcome hwaited
      obtain ⟨hfetched, hkept⟩ := h.kept task outcome hwaited
      rw [hstage] at hkept
      refine ⟨hfetched, Or.inr ?_⟩
      rcases hkept with ⟨⟨⟩, -⟩ | houtcome
      exact houtcome
    · rintro - ⟨⟩
  exact hmoved.hold (h.free_move (by rw [hstage]; rfl) rfl)

lemma Sound.advance_unlocking {lock : Lock κ}
    (hstage : (state.calls task).stage = .unlocking lock result)
    (hcareful : Careful mint state (.advance task answer)) :
    Sound mint (advance isNative mint state task answer) := by
  simp only [Careful, hstage] at hcareful
  simp only [advance, hstage]
  have hresolves : (state.calls task).stage.resolves = some lock := by rw [hstage]; rfl
  have hwaited := h.waited_of_resolves hresolves
  have hmint : lock.mint = mint task := h.keyed task lock (claims_of_resolves hresolves)
  have hmoved : Sound mint (state.move task (.releasing result)) := by
    refine h.move (by rintro _ ⟨⟩) (by rintro _ ⟨⟩) (by rintro _ ⟨⟩) ?_ (fun _ => rfl)
      (kept_of_waited hwaited) ?_
    · intro decimals hdecimals
      exact h.carried task decimals (by rw [hstage]; exact hdecimals)
    · rintro - ⟨⟩
  have hleft : Sound mint ((state.move task (.releasing result)).hold lock false) :=
    hmoved.hold (h.free_move (holds_of_resolves hresolves) rfl)
  split_ifs with hfetched
  · have hcalls : ∀ other, other ≠ task →
        ((state.move task (.releasing result)).hold lock false).calls other =
          state.calls other := fun other hother => update_of_ne hother _ _
    have hself : (((state.move task (.releasing result)).hold lock false).calls task).stage =
        .releasing result :=
      congrArg Call.stage (update_self task _ state.calls)
    refine hleft.tell ?_ ?_
    · rintro ⟨other, hwaiting⟩
      rw [hmint]
      refine hcareful hfetched ⟨other, ?_⟩
      by_cases hother : other = task
      · subst hother
        rw [hself] at hwaiting
        cases hwaiting
      · rw [hcalls other hother] at hwaiting
        exact hwaiting
    · intro other hlock
      by_cases hother : other = task
      · subst hother
        rw [hself]
        rfl
      · rw [hcalls other hother]
        apply Option.eq_none_iff_forall_ne_some.mpr
        intro lock' hresolves'
        exact hother (h.one hresolves' hresolves (hlock.trans hmint))
  · exact hleft

lemma Sound.advance_releasing (hstage : (state.calls task).stage = .releasing result)
    (hcareful : Careful mint state (.advance task answer)) :
    Sound mint (advance isNative mint state task answer) := by
  simp only [Careful, hstage] at hcareful
  simp only [advance, hstage]
  have hreleased : Sound mint (releaseLockIfIdle state (mint task)) := by
    apply h.relock
    intro other lock hresolves
    apply lockOf_filter
    intro hmint
    rw [hcareful other hmint] at hresolves
    cases hresolves
  refine hreleased.move (by rintro _ ⟨⟩) (by rintro _ ⟨⟩) (by rintro _ ⟨⟩) ?_ (fun _ => rfl) ?_ ?_
  · intro decimals hdecimals
    exact h.carried task decimals (by rw [hstage]; exact hdecimals)
  · intro outcome hwaited
    obtain ⟨hfetched, hkept⟩ := h.kept task outcome hwaited
    rw [hstage] at hkept
    refine ⟨hfetched, Or.inr ?_⟩
    rcases hkept with ⟨⟨⟩, -⟩ | houtcome
    exact houtcome
  · rintro - ⟨⟩

lemma Sound.step {event : Event τ κ} (hcareful : Careful mint state event) :
    Sound mint (step isNative mint state event) := by
  cases event with
  | advance task answer =>
    show Sound mint (advance isNative mint state task answer)
    cases hstage : (state.calls task).stage with
    | start | readCache | checkFailure | askDb | cacheDb | clearDb | fetchLock =>
      exact h.advance_early (by rw [hstage]; rfl) hcareful
    | waiting | recheckFailure | recheckCache =>
      exact h.advance_pending (by rw [hstage]; rfl) hcareful
    | hit => exact h.advance_hit hstage
    | askServer | fetching | askRugcheck | caching | clearing | persisting | persisted
    | marking =>
      exact h.advance_resolving (by rw [hstage]; rfl) (by rw [hstage]; rintro _ ⟨⟩) hcareful
    | unlocking => exact h.advance_unlocking hstage hcareful
    | releasing => exact h.advance_releasing hstage hcareful
    | returned =>
      simp only [advance, hstage]
      exact h
  | write key decimals =>
    simp only [Decimals.step]
    split_ifs with hrange
    · exact h.store (by rintro _ ⟨⟩; exact hrange) (hcareful hrange)
    · exact h
  | evict key => exact h.store (by rintro _ ⟨⟩) fun howed => absurd howed hcareful
  | forget key => exact h.flag fun _ => rfl

end

omit [DecidableEq τ] in
lemma sound_start : Sound mint (start τ κ) where
  keyed := by rintro task lock ⟨⟩
  held := by rintro task lock ⟨⟩
  alone := by rintro task task' lock ⟨⟩
  current := by rintro task lock ⟨⟩
  cached := by rintro key decimals ⟨⟩
  carried := by rintro task decimals ⟨⟩
  begun := by rintro task ⟨⟩
  kept := fun task => kept_of_waited rfl
  quiet := fun task _ => rfl

variable (isNative mint) in
/-- **Decimals are resolved once**: in a run of careful steps a mint is fetched by one call at a
time, who waited for a fetch returns its outcome, and all decimals are in range. -/
theorem resolved_of_careful (events : List (Event τ κ))
    (hcareful : Throughout (step isNative mint) (Careful mint) (start τ κ) events) :
    Resolved isNative mint (events.foldl (step isNative mint) (start τ κ)) :=
  (hcareful.final (Sound mint) sound_start fun _ h _ _ hstep => h.step hstep).resolved

end Run

/-- So many steps of a call that nobody answers. -/
def unanswered {τ : Type*} (task : τ) (steps : ℕ) : List (Event τ ℕ) :=
  List.replicate steps (.advance task none)

/-- A call that waited for the fetch of another returns what the chain answered. -/
theorem resolved_of_careful_pair :
    Resolved (fun _ => false) (fun _ => 0)
      ((unanswered false 9 ++ unanswered true 5 ++ [Event.advance false (some 6)] ++
        unanswered false 4 ++ unanswered true 5).foldl
        (step (fun _ => false) (fun _ => 0)) (start Bool ℕ)) := by
  refine resolved_of_careful (fun _ => false) (fun _ => 0) _ ?_
  -- what is asked, looked up again and given up is careful, the rest always is
  refine ⟨trivial, trivial, trivial, ?_, ?_, trivial, ?_, ?_, ?_, trivial, trivial, trivial, ?_, ?_,
    ?_, trivial, trivial, trivial, ?_, trivial, ?_, ?_, trivial, ?_, trivial⟩
  · rintro _ ⟨⟩
  · exact fun hlength => absurd hlength (show ¬maxFetchLocks < 0 by decide)
  · exact fun hlock => absurd rfl hlock
  · exact fun hlock => absurd rfl hlock
  · rintro _ ⟨⟩
  · rintro _ ⟨⟩
  · exact fun hlength => absurd hlength (show ¬maxFetchLocks < 1 by decide)
  · rintro _ ⟨⟩
    exact show 6 ≤ maxDecimals by decide
  · exact fun _ _ => ⟨rfl, 6, rfl, rfl⟩
  · exact fun _ => rfl
  · exact fun hlock => absurd rfl hlock
  · rintro (_ | _) -
    · rfl
    · rfl

/-- A call returns what the chain answers, whatever it is; a call that waited fetches again; and it
does so beside another that has a new lock of the mint. -/
theorem not_resolved :
    ¬Resolved (fun _ => false) (fun _ => 0)
        ((unanswered 0 9 ++ [Event.advance 0 (some 123)] ++ unanswered 0 4).foldl
          (step (fun _ => false) (fun _ => 0)) (start ℕ ℕ)) ∧
      ¬Resolved (fun _ => false) (fun _ => 0)
        ((unanswered 0 9 ++ unanswered 1 5 ++ unanswered 0 4 ++ unanswered 1 3).foldl
          (step (fun _ => false) (fun _ => 0)) (start ℕ ℕ)) ∧
      ¬Resolved (fun _ => false) (fun _ => 0)
        ((unanswered 0 9 ++ unanswered 1 5 ++ unanswered 2 4 ++ unanswered 0 4 ++ unanswered 1 3 ++
          unanswered 0 1 ++ unanswered 2 4).foldl
          (step (fun _ => false) (fun _ => 0)) (start ℕ ℕ)) := by
  refine ⟨fun h => ?_, fun h => ?_, fun h => ?_⟩
  · exact absurd (h.returned 0 123 rfl) (by decide)
  · cases (h.joined 1 none rfl).1
  · cases h.single 1 2 ⟨0, 0⟩ ⟨0, 1⟩ rfl rfl rfl

end Dripline.Tokens.Decimals
