import Dripline.Found.Trace
import Mathlib

/-!
# The circuit breaker of a provider

`rpc/circuit_breaker/state.rs`.

* `throughout_admits_iff` — and so in every run, exactly as long as no last probe ends without a
  verdict.
* `threshold_le_streak` — it opens after a streak of failures only.
* `refuses_after_failure` — and then refuses every request for as long as is configured.
-/

namespace Dripline.Rpc

open Dripline.Found.Trace

/-- Source: `rpc/types.rs` -/
inductive CircuitState
  | closed
  | opened
  | halfOpen
  deriving DecidableEq

/-- Source: `circuit_breaker/config.rs`, `CircuitBreakerConfig`, without the timeout that nothing
reads -/
structure BreakerConfig where
  failureThreshold : ℕ
  successThreshold : ℕ
  openDuration : ℕ
  halfOpenMaxRequests : ℕ
  ignoreRateLimits : Bool
  minStateDuration : ℕ

/-- Source: `circuit_breaker/state.rs`, `ProviderCircuitBreaker` -/
structure Breaker where
  state : CircuitState
  failures : ℕ
  successes : ℕ
  openedAt : Option ℕ
  lastStateChange : ℕ
  totalOpens : ℕ
  lastError : Option String
  halfOpenRequests : ℕ

/-- What is stored by `fetch_add(1)` on a `u32`. -/
def succ32 (n : ℕ) : ℕ := (n + 1) % 2 ^ 32

lemma succ32_le (n : ℕ) : succ32 n ≤ n + 1 := Nat.mod_le _ _

/-- Allowed, or the time until the next try. -/
inductive Admission
  | allowed
  | wait (duration : ℕ)
  deriving DecidableEq

namespace Breaker

/-- Source: `state.rs` -/
def new (now : ℕ) : Breaker :=
  { state := .closed
    failures := 0
    successes := 0
    openedAt := none
    lastStateChange := now
    totalOpens := 0
    lastError := none
    halfOpenRequests := 0 }

variable (config : BreakerConfig) (breaker : Breaker) (now : ℕ)

/-! ## May a request go out -/

/-- One of the probes of a half-open breaker. Source: `state.rs`, `can_execute`, `HalfOpen` -/
def takeTicket : Breaker × Admission :=
  ({ breaker with halfOpenRequests := succ32 breaker.halfOpenRequests },
    if breaker.halfOpenRequests < config.halfOpenMaxRequests then .allowed else .wait (100 * 10 ^ 6))

/-- The time that is left of the cooldown; none without a time of opening.
Source: `state.rs`, `can_execute`, `Open` -/
def cooldown : Option ℕ :=
  match breaker.openedAt with
  | some time =>
    if config.openDuration ≤ now - time then some 0 else some (config.openDuration - (now - time))
  | none => none

/-- Source: `state.rs` -/
def transitionToHalfOpen : Breaker :=
  if breaker.state = .opened then
    { breaker with
      state := .halfOpen
      successes := 0
      halfOpenRequests := 0
      lastStateChange := now }
  else breaker

/-- Source: `state.rs` -/
def canExecute : Breaker × Admission :=
  match breaker.state with
  | .closed => (breaker, .allowed)
  | .halfOpen => breaker.takeTicket config
  | .opened =>
    match breaker.cooldown config now with
    | none => (breaker, .allowed)
    | some 0 => (breaker.transitionToHalfOpen now, .allowed)
    | some left => (breaker, .wait left)

/-! ## What became of it -/

/-- Source: `state.rs` -/
def recordSuccess : Breaker :=
  match breaker.state with
  | .closed => { breaker with failures := 0 }
  | .halfOpen =>
    if config.successThreshold ≤ succ32 breaker.successes then
      { breaker with
        state := .closed
        failures := 0
        successes := 0
        halfOpenRequests := 0
        openedAt := none
        lastStateChange := now
        lastError := none }
    else { breaker with successes := succ32 breaker.successes }
  | .opened => breaker

/-- Source: `state.rs` -/
def recordFailure (error : String) (isRateLimit : Bool) : Breaker :=
  if isRateLimit && config.ignoreRateLimits then breaker
  else
    match breaker.state with
    | .closed =>
      if config.failureThreshold ≤ succ32 breaker.failures ∧
          config.minStateDuration ≤ now - breaker.lastStateChange then
        { breaker with
          lastError := some error
          failures := succ32 breaker.failures
          state := .opened
          openedAt := some now
          lastStateChange := now
          totalOpens := breaker.totalOpens + 1 }
      else { breaker with lastError := some error, failures := succ32 breaker.failures }
    | .halfOpen =>
      { breaker with
        lastError := some error
        state := .opened
        openedAt := some now
        lastStateChange := now
        successes := 0
        halfOpenRequests := 0
        totalOpens := breaker.totalOpens + 1 }
    | .opened => { breaker with lastError := some error, openedAt := some now }

/-- The probes of a half-open breaker are used up. -/
def UsedUp : Prop :=
  breaker.state = .halfOpen ∧ config.halfOpenMaxRequests ≤ breaker.halfOpenRequests

instance : Decidable (breaker.UsedUp config) := inferInstanceAs (Decidable (_ ∧ _))

end Breaker

/-! ## Waiting -/

/-- A breaker, the time, and the admitted requests of which nothing is known yet. -/
structure BreakerRun where
  breaker : Breaker
  now : ℕ
  outstanding : ℕ

/-- A request asks; one ends well, badly, or without a word; time passes. -/
inductive BreakerEvent
  | asked
  | succeeded
  | failed (error : String) (isRateLimit : Bool)
  | dropped
  | waited (duration : ℕ)

namespace BreakerRun

variable (config : BreakerConfig) (run : BreakerRun)

/-- A new breaker. -/
def start (now : ℕ) : BreakerRun := ⟨.new now, now, 0⟩

/-- What an event does. -/
def step : BreakerEvent → BreakerRun
  | .asked =>
    let asked := run.breaker.canExecute config run.now
    { run with
      breaker := asked.1
      outstanding := if asked.2 = .allowed then run.outstanding + 1 else run.outstanding }
  | .succeeded =>
    { run with
      breaker := run.breaker.recordSuccess config run.now
      outstanding := run.outstanding - 1 }
  | .failed error isRateLimit =>
    { run with
      breaker := run.breaker.recordFailure config run.now error isRateLimit
      outstanding := run.outstanding - 1 }
  | .dropped => { run with outstanding := run.outstanding - 1 }
  | .waited duration => { run with now := run.now + duration }

/-- With no request on the way, waiting makes the breaker admit one. -/
def Admits : Prop :=
  run.outstanding = 0 →
    ∃ duration, (run.breaker.canExecute config (run.now + duration)).2 = .allowed

/-- The last probe does not end in a half-open breaker whose probes are used up, unless it fails or
completes the recovery. -/
def Careful : BreakerEvent → Prop
  | .succeeded =>
    run.outstanding ≤ 1 → run.breaker.UsedUp config →
      config.successThreshold ≤ succ32 run.breaker.successes
  | .failed _ isRateLimit =>
    run.outstanding ≤ 1 → run.breaker.UsedUp config →
      (isRateLimit && config.ignoreRateLimits) = false
  | .dropped => run.outstanding ≤ 1 → ¬ run.breaker.UsedUp config
  | _ => True

lemma canExecute_iff (breaker : Breaker) (now : ℕ) :
    (∃ duration, (breaker.canExecute config (now + duration)).2 = .allowed) ↔
      ¬ breaker.UsedUp config := by
  unfold Breaker.canExecute Breaker.UsedUp
  cases hstate : breaker.state with
  | closed => simp
  | halfOpen => simp [Breaker.takeTicket]
  | opened =>
    simp only [reduceCtorEq, false_and, not_false_eq_true, iff_true]
    cases hopened : breaker.openedAt with
    | none => exact ⟨0, by simp [Breaker.cooldown, hopened]⟩
    | some time =>
      refine ⟨time + config.openDuration, ?_⟩
      have hover : config.openDuration ≤ now + (time + config.openDuration) - time := by omega
      simp [Breaker.cooldown, hopened, hover]

lemma admits_iff :
    run.Admits config ↔ (run.breaker.UsedUp config → 0 < run.outstanding) := by
  unfold Admits
  rw [canExecute_iff]
  by_cases husedUp : run.breaker.UsedUp config
  · simp [husedUp, Nat.pos_iff_ne_zero]
  · simp [husedUp]

variable {config run} {breaker : Breaker} {now : ℕ}

lemma usedUp_of_refused (hrefused : (breaker.canExecute config now).2 ≠ .allowed)
    (h : (breaker.canExecute config now).1.UsedUp config) : breaker.UsedUp config := by
  unfold Breaker.canExecute at hrefused h
  cases hstate : breaker.state with
  | closed => simp [hstate] at hrefused
  | halfOpen =>
    simp only [hstate, Breaker.takeTicket] at hrefused
    refine ⟨hstate, ?_⟩
    by_contra hroom
    simp [Nat.lt_of_not_le hroom] at hrefused
  | opened =>
    simp only [hstate] at hrefused h
    match hleft : breaker.cooldown config now with
    | none => simp [hleft] at hrefused
    | some 0 => simp [hleft] at hrefused
    | some (left + 1) =>
      rw [hleft] at h
      exact h

lemma usedUp_recordSuccess :
    (breaker.recordSuccess config now).UsedUp config ↔
      breaker.UsedUp config ∧ ¬ config.successThreshold ≤ succ32 breaker.successes := by
  unfold Breaker.recordSuccess Breaker.UsedUp
  cases hstate : breaker.state with
  | closed => simp
  | opened => simp [hstate]
  | halfOpen =>
    by_cases hover : config.successThreshold ≤ succ32 breaker.successes
    · simp [hover]
    · simp [hover]

lemma usedUp_recordFailure {error : String} {isRateLimit : Bool} :
    (breaker.recordFailure config now error isRateLimit).UsedUp config ↔
      breaker.UsedUp config ∧ (isRateLimit && config.ignoreRateLimits) = true := by
  unfold Breaker.recordFailure
  by_cases hignored : (isRateLimit && config.ignoreRateLimits) = true
  · simp [hignored]
  · rw [if_neg hignored]
    unfold Breaker.UsedUp
    cases hstate : breaker.state with
    | closed =>
      dsimp only
      split <;> simp
    | halfOpen | opened => simp [hignored]

lemma admits_step_iff (h : run.Admits config) (event : BreakerEvent) :
    (run.step config event).Admits config ↔ run.Careful config event := by
  rw [admits_iff] at h ⊢
  have hpos : ¬ 0 < run.outstanding - 1 ↔ run.outstanding ≤ 1 := by omega
  cases event with
  | asked =>
    refine iff_of_true ?_ trivial
    show (run.breaker.canExecute config run.now).1.UsedUp config →
      0 < if (run.breaker.canExecute config run.now).2 = .allowed then run.outstanding + 1
        else run.outstanding
    split
    case isTrue hallowed => exact fun _ => Nat.succ_pos _
    case isFalse hrefused => exact fun husedUp => h (usedUp_of_refused hrefused husedUp)
  | succeeded =>
    show ((run.breaker.recordSuccess config run.now).UsedUp config → 0 < run.outstanding - 1) ↔
      (run.outstanding ≤ 1 → run.breaker.UsedUp config →
        config.successThreshold ≤ succ32 run.breaker.successes)
    rw [usedUp_recordSuccess, ← hpos]
    tauto
  | failed error isRateLimit =>
    show ((run.breaker.recordFailure config run.now error isRateLimit).UsedUp config →
      0 < run.outstanding - 1) ↔
        (run.outstanding ≤ 1 → run.breaker.UsedUp config →
          (isRateLimit && config.ignoreRateLimits) = false)
    rw [usedUp_recordFailure, ← hpos, ← Bool.not_eq_true]
    tauto
  | dropped =>
    show (run.breaker.UsedUp config → 0 < run.outstanding - 1) ↔
      (run.outstanding ≤ 1 → ¬ run.breaker.UsedUp config)
    rw [← hpos]
    tauto
  | waited duration => exact iff_of_true h trivial

/-- **The breaker never wedges** in exactly the runs in which no last probe ends without a verdict
while the probes are used up: after every event, with no request on the way, waiting makes it admit
one. -/
theorem throughout_admits_iff (now : ℕ) (events : List BreakerEvent) :
    Throughout (step config) (fun run event => (run.step config event).Admits config) (start now)
        events ↔
      Throughout (step config) (Careful config) (start now) events := by
  refine throughout_iff (Admits config) ?_ (fun _ h event _ => admits_step_iff h event)
    fun _ _ _ _ h => h
  exact fun _ => ⟨0, rfl⟩

/-! ## Opening and cooling down -/

/-- The failures that count since the last success, after one more event. -/
def streakStep (config : BreakerConfig) (streak : ℕ) : BreakerEvent → ℕ
  | .succeeded => 0
  | .failed _ isRateLimit => if isRateLimit && config.ignoreRateLimits then streak else streak + 1
  | _ => streak

/-- The failures that count since the last success. -/
def streak (config : BreakerConfig) (events : List BreakerEvent) : ℕ :=
  events.foldl (streakStep config) 0

/-- The failures of a closed breaker are among the streak of its run. -/
def Within (streak : ℕ) (run : BreakerRun) : Prop :=
  run.breaker.state = .closed → run.breaker.failures ≤ streak

lemma within_step {streak : ℕ} (h : Within streak run) (event : BreakerEvent) :
    Within (streakStep config streak event) (run.step config event) ∧
      (run.breaker.state = .closed → (run.step config event).breaker.state ≠ .closed →
        streakStep config streak event = streak + 1 ∧ config.failureThreshold ≤ streak + 1) := by
  unfold Within at h ⊢
  cases event with
  | asked =>
    simp only [step, Breaker.canExecute, streakStep]
    cases hstate : run.breaker.state with
    | closed => exact ⟨fun _ => h hstate, fun _ hopen => (hopen hstate).elim⟩
    | halfOpen => simp [Breaker.takeTicket, hstate]
    | opened =>
      dsimp only
      split <;> simp [hstate, Breaker.transitionToHalfOpen]
  | succeeded =>
    simp only [step, Breaker.recordSuccess, streakStep]
    cases hstate : run.breaker.state with
    | closed => simp
    | opened => simp [hstate]
    | halfOpen =>
      dsimp only
      split <;> simp
  | failed error isRateLimit =>
    simp only [step, Breaker.recordFailure, streakStep]
    split
    · exact ⟨h, fun hclosed hopen => (hopen hclosed).elim⟩
    · cases hstate : run.breaker.state with
      | closed =>
        have hle := (succ32_le run.breaker.failures).trans (Nat.succ_le_succ (h hstate))
        dsimp only
        split
        · next hover => exact ⟨by simp, fun _ _ => ⟨rfl, hover.1.trans hle⟩⟩
        · exact ⟨fun _ => hle, fun _ hopen => (hopen rfl).elim⟩
      | opened | halfOpen => simp
  | dropped | waited => exact ⟨h, fun hclosed hopen => (hopen hclosed).elim⟩

/-- **A breaker opens only after a streak**: in every run, an event that takes it out of being
closed is a failure that counts, and with it as many failed since the last success as the
configuration says. -/
theorem threshold_le_streak (now : ℕ) (events : List BreakerEvent) (event : BreakerEvent)
    (hclosed : (events.foldl (step config) (start now)).breaker.state = .closed)
    (hopen : ((events.foldl (step config) (start now)).step config event).breaker.state ≠ .closed) :
    streak config (events ++ [event]) = streak config events + 1 ∧
      config.failureThreshold ≤ streak config (events ++ [event]) := by
  have hwithin : Within (streak config events) (events.foldl (step config) (start now)) := by
    clear hclosed hopen
    induction events using List.reverseRecOn with
    | nil => exact fun _ => le_rfl
    | append_singleton events event ih =>
      rw [streak, List.foldl_concat, List.foldl_concat]
      exact (within_step ih event).1
  obtain ⟨hcounts, hover⟩ := (within_step hwithin event).2 hclosed hopen
  rw [streak, List.foldl_concat, ← streak, hcounts]
  exact ⟨rfl, hover⟩

/-- How long an event waits. -/
def waited : BreakerEvent → ℕ
  | .waited duration => duration
  | _ => 0

/-- The breaker is open, and will be after as long as is left. -/
def Cooling (config : BreakerConfig) (left : ℕ) (run : BreakerRun) : Prop :=
  run.breaker.state = .opened ∧ ∃ time, run.breaker.openedAt = some time ∧ time ≤ run.now ∧
    run.now + left < time + config.openDuration

lemma Cooling.refuses {left : ℕ} (h : Cooling config left run) :
    ∃ wait, run.breaker.canExecute config run.now = (run.breaker, .wait wait) := by
  obtain ⟨hstate, time, hopened, hpast, hleft⟩ := h
  obtain ⟨wait, hwait⟩ : ∃ wait, config.openDuration - (run.now - time) = wait + 1 :=
    ⟨config.openDuration - (run.now - time) - 1, by omega⟩
  have hwithin : ¬config.openDuration ≤ run.now - time := by omega
  exact ⟨wait + 1, by simp [Breaker.canExecute, Breaker.cooldown, hstate, hopened, hwithin, hwait]⟩

lemma Cooling.step {left : ℕ} {event : BreakerEvent} (h : Cooling config (waited event + left) run) :
    Cooling config left (run.step config event) := by
  obtain ⟨wait, hasked⟩ := h.refuses
  obtain ⟨hstate, time, hopened, hpast, hleft⟩ := h
  have hsame (outstanding : ℕ) : Cooling config left
      ⟨run.breaker, run.now + waited event, outstanding⟩ :=
    ⟨hstate, time, hopened, by dsimp only; omega, by dsimp only; omega⟩
  cases event with
  | asked =>
    simp only [BreakerRun.step, hasked]
    exact hsame _
  | succeeded =>
    simp only [BreakerRun.step, Breaker.recordSuccess, hstate]
    exact hsame _
  | failed error isRateLimit =>
    simp only [BreakerRun.step, Breaker.recordFailure, hstate]
    split
    · exact hsame _
    · exact ⟨rfl, run.now, rfl, le_rfl, by simp only [waited] at *; omega⟩
  | dropped | waited => exact hsame _

/-- **An open breaker lets nothing through**: after a failure that counts and leaves it open, every
request is refused, whatever comes in between, until as long has passed as the configuration
says. -/
theorem refuses_after_failure (run : BreakerRun) (error : String) (isRateLimit : Bool)
    (hcounts : (isRateLimit && config.ignoreRateLimits) = false)
    (hopened : (run.step config (.failed error isRateLimit)).breaker.state = .opened)
    (later : List BreakerEvent) (hshort : (later.map waited).sum < config.openDuration) :
    let after := later.foldl (step config) (run.step config (.failed error isRateLimit))
    ∃ wait, after.breaker.canExecute config after.now = (after.breaker, .wait wait) := by
  have hcooling : Cooling config (later.map waited).sum
      (run.step config (.failed error isRateLimit)) := by
    refine ⟨hopened, run.now, ?_, le_rfl, Nat.add_lt_add_left hshort _⟩
    simp only [step, Breaker.recordFailure, hcounts, Bool.false_eq_true, if_false] at hopened ⊢
    cases hstate : run.breaker.state <;> simp only [hstate] at hopened ⊢
    split at hopened
    · next hover => rw [if_pos hover]
    · cases hopened
  generalize run.step config (.failed error isRateLimit) = run at hcooling
  clear hshort
  induction later generalizing run with
  | nil => exact hcooling.refuses
  | cons event later ih => exact ih _ hcooling.step

/-! ## The conservative settings -/

/-- Source: `circuit_breaker/config.rs` -/
def conservative : BreakerConfig :=
  { failureThreshold := 10
    successThreshold := 5
    openDuration := 60 * 10 ^ 9
    halfOpenMaxRequests := 3
    ignoreRateLimits := true
    minStateDuration := 10 * 10 ^ 9 }

/-- Ten failures, the cooldown, and then every probe ends well. -/
def recoveringRun : List BreakerEvent :=
  .waited (10 * 10 ^ 9) :: List.replicate 10 (.failed "error" false) ++
    .waited (60 * 10 ^ 9) :: (List.replicate 4 [.asked, .succeeded]).flatten

/-- The tenth failure opens the breaker. -/
theorem threshold_le_streak_conservative :
    10 ≤ streak conservative (recoveringRun.take 10 ++ [.failed "error" false]) :=
  (@threshold_le_streak conservative 0 (recoveringRun.take 10) _ (by decide +kernel)
    (by decide +kernel)).2

/-- And a probe right after it is refused. -/
theorem refuses_after_failure_conservative :
    let opened := ((recoveringRun.take 10).foldl (step conservative) (start 0)).step conservative
      (.failed "error" false)
    ∃ wait, ((opened.step conservative .asked).breaker.canExecute conservative
      (opened.step conservative .asked).now).2 = .wait wait := by
  obtain ⟨wait, hwait⟩ := @refuses_after_failure conservative
    ((recoveringRun.take 10).foldl (step conservative) (start 0)) "error" false rfl
    (by decide +kernel) [.asked] (by decide)
  exact ⟨wait, congrArg Prod.snd hwait⟩

/-- **A breaker that recovers is wedged**: under the conservative settings four probes have
succeeded, none is on the way, a fifth success would close the breaker, and it admits no request
however long one waits. -/
theorem not_admits :
    let run := recoveringRun.foldl (step conservative) (start 0)
    run.outstanding = 0 ∧ run.breaker.state = .halfOpen ∧ run.breaker.successes = 4 ∧
      ∀ duration, (run.breaker.canExecute conservative (run.now + duration)).2 ≠ .allowed := by
  intro run
  have husedUp : run.breaker.UsedUp conservative := by decide +kernel
  refine ⟨by decide +kernel, by decide +kernel, by decide +kernel, fun duration hallowed => ?_⟩
  exact (canExecute_iff conservative run.breaker run.now).mp ⟨duration, hallowed⟩ husedUp

end BreakerRun

end Dripline.Rpc
