import Dripline.Rpc.Breaker

/-!
# The probes of a half-open breaker

The callers of `can_execute` side by side. The state is read under a lock that is released; what a
caller does next goes by what it read.

* `throughout_bounded_iff` — as many are admitted as allowed in exactly those interleavings.
-/

namespace Dripline.Rpc

open Dripline.Found.Trace

/-- What a caller goes on with after it has read the state: a ticket of a half-open breaker, the
time of opening, or the transition. -/
inductive Stage
  | ticket
  | openedAt
  | transition

/-- The breaker, the time, the callers on the way, and of the present half-open phase the calls that
were decided and those of them that were admitted. -/
structure Callers where
  breaker : Breaker
  now : ℕ
  stages : ℕ → Option Stage
  calls : ℕ
  admitted : ℕ

/-- A caller reads the state; it takes its next step; a request ends; time passes. -/
inductive CallerEvent
  | asks (caller : ℕ)
  | goesOn (caller : ℕ)
  | succeeded
  | failed (error : String) (isRateLimit : Bool)
  | waited (duration : ℕ)

namespace Callers

variable (config : BreakerConfig) (callers : Callers)

/-- A new breaker, and nobody asks. -/
def start (now : ℕ) : Callers := ⟨.new now, now, fun _ => none, 0, 0⟩

/-- A caller is done. -/
def leaves (caller : ℕ) : Callers :=
  { callers with stages := Function.update callers.stages caller none }

/-- A caller has a next step. -/
def stays (caller : ℕ) (stage : Stage) : Callers :=
  { callers with stages := Function.update callers.stages caller (some stage) }

/-- A call is decided: it counts where the breaker is half-open. -/
def decides (allowed : Bool) : Callers :=
  if callers.breaker.state = .halfOpen then
    { callers with
      calls := callers.calls + 1
      admitted := if allowed then callers.admitted + 1 else callers.admitted }
  else callers

/-- The read of the state. Source: `state.rs`, `can_execute`, `let state =
*self.state.read().await` -/
def reads (caller : ℕ) : Callers :=
  match callers.breaker.state with
  | .closed => callers
  | .halfOpen => callers.stays caller .ticket
  | .opened => callers.stays caller .openedAt

/-- A ticket is taken. Source: `state.rs`, `can_execute`, `HalfOpen` -/
def takes (caller : ℕ) : Callers :=
  let taken := callers.breaker.takeTicket config
  { callers.leaves caller with breaker := taken.1 }.decides (decide (taken.2 = Admission.allowed))

/-- The time of opening is read. Source: `state.rs`, `can_execute`, `Open` -/
def looks (caller : ℕ) : Callers :=
  match callers.breaker.cooldown config callers.now with
  | none => (callers.leaves caller).decides true
  | some 0 => callers.stays caller .transition
  | some _ => callers.leaves caller

/-- The transition, which only the first of the callers makes; all of them are admitted.
Source: `state.rs`, `transition_to_half_open`, and `can_execute`, `Open` -/
def passes (caller : ℕ) : Callers :=
  if callers.breaker.state = .opened then
    { callers.leaves caller with
      breaker := callers.breaker.transitionToHalfOpen callers.now
      calls := 0
      admitted := 0 }.decides true
  else (callers.leaves caller).decides true

/-- What an event does. -/
def step : CallerEvent → Callers
  | .asks caller =>
    match callers.stages caller with
    | none => callers.reads caller
    | some _ => callers
  | .goesOn caller =>
    match callers.stages caller with
    | none => callers
    | some .ticket => callers.takes config caller
    | some .openedAt => callers.looks config caller
    | some .transition => callers.passes caller
  | .succeeded => { callers with breaker := callers.breaker.recordSuccess config callers.now }
  | .failed error isRateLimit =>
    { callers with
      breaker := callers.breaker.recordFailure config callers.now error isRateLimit }
  | .waited duration => { callers with now := callers.now + duration }

/-- In a half-open phase no more requests are admitted than may be. -/
def Bounded : Prop :=
  callers.breaker.state = .halfOpen → callers.admitted ≤ config.halfOpenMaxRequests

/-- A call that is decided at a stage finds room in the half-open phase. -/
def Room : Option Stage → Prop
  | none => True
  | some .ticket => callers.breaker.state = .halfOpen → callers.calls < config.halfOpenMaxRequests
  | some .openedAt =>
    callers.breaker.state = .halfOpen → callers.breaker.openedAt = none →
      callers.calls < config.halfOpenMaxRequests
  | some .transition =>
    match callers.breaker.state with
    | .closed => True
    | .opened => 0 < config.halfOpenMaxRequests
    | .halfOpen => callers.calls < config.halfOpenMaxRequests

/-- The calls that are decided in a half-open phase are no more than may be admitted, the one that
began it and those that had read the open state among them. -/
def Careful : CallerEvent → Prop
  | .goesOn caller => callers.Room config (callers.stages caller)
  | _ => True

/-- In a half-open phase every call has been admitted so far, and fewer tickets than calls were
taken. -/
structure Counted : Prop where
  admitted : callers.breaker.state = .halfOpen → callers.admitted = callers.calls
  calls : callers.breaker.state = .halfOpen → callers.calls ≤ config.halfOpenMaxRequests
  tickets : callers.breaker.state = .halfOpen → callers.breaker.halfOpenRequests < callers.calls

variable {config callers}

lemma halfOpen_recordSuccess {breaker : Breaker} {now : ℕ}
    (h : (breaker.recordSuccess config now).state = .halfOpen) :
    breaker.state = .halfOpen ∧
      (breaker.recordSuccess config now).halfOpenRequests = breaker.halfOpenRequests := by
  unfold Breaker.recordSuccess at h ⊢
  cases hstate : breaker.state with
  | closed | opened => simp [hstate] at h
  | halfOpen =>
    by_cases hover : config.successThreshold ≤ succ32 breaker.successes
    · simp [hstate, hover] at h
    · simp [hover]

lemma halfOpen_recordFailure {breaker : Breaker} {now : ℕ} {error : String} {isRateLimit : Bool}
    (h : (breaker.recordFailure config now error isRateLimit).state = .halfOpen) :
    breaker.state = .halfOpen ∧
      (breaker.recordFailure config now error isRateLimit).halfOpenRequests =
        breaker.halfOpenRequests := by
  unfold Breaker.recordFailure at h ⊢
  by_cases hignored : (isRateLimit && config.ignoreRateLimits) = true
  · rw [if_pos hignored] at h ⊢
    exact ⟨h, rfl⟩
  · rw [if_neg hignored] at h
    cases hstate : breaker.state with
    | closed =>
      rw [hstate] at h
      dsimp only at h
      split at h <;> cases h
    | halfOpen | opened =>
      rw [hstate] at h
      cases h

/-! ## One decision -/

lemma bounded_decides (hstate : callers.breaker.state = .halfOpen)
    (hadmitted : callers.admitted = callers.calls) :
    (callers.decides true).Bounded config ↔ callers.calls < config.halfOpenMaxRequests := by
  unfold Bounded decides
  rw [if_pos hstate]
  simp [hstate, hadmitted]

lemma counted_decides (hstate : callers.breaker.state = .halfOpen)
    (hadmitted : callers.admitted = callers.calls)
    (hroom : callers.calls < config.halfOpenMaxRequests)
    (htickets : callers.breaker.halfOpenRequests ≤ callers.calls) :
    (callers.decides true).Counted config := by
  unfold decides
  rw [if_pos hstate]
  exact ⟨fun _ => congrArg (· + 1) hadmitted, fun _ => hroom, fun _ => Nat.lt_succ_of_le htickets⟩

lemma counted_of_not_halfOpen (h : callers.breaker.state ≠ .halfOpen) : callers.Counted config :=
  ⟨fun hstate => absurd hstate h, fun hstate => absurd hstate h, fun hstate => absurd hstate h⟩

lemma decides_of_not_halfOpen (h : callers.breaker.state ≠ .halfOpen) (allowed : Bool) :
    callers.decides allowed = callers := if_neg h

@[simp] lemma breaker_decides (allowed : Bool) :
    (callers.decides allowed).breaker = callers.breaker := by
  unfold decides
  split <;> rfl

lemma Counted.bounded (h : callers.Counted config) : callers.Bounded config := fun hstate => by
  rw [h.admitted hstate]
  exact h.calls hstate

lemma Counted.takes (h : callers.Counted config) (caller : ℕ) :
    ((callers.takes config caller).Bounded config ↔
      (callers.breaker.state = .halfOpen → callers.calls < config.halfOpenMaxRequests)) ∧
      ((callers.takes config caller).Bounded config →
        (callers.takes config caller).Counted config) := by
  by_cases hstate : callers.breaker.state = .halfOpen
  · have hroom : callers.breaker.halfOpenRequests < config.halfOpenMaxRequests :=
      lt_of_lt_of_le (h.tickets hstate) (h.calls hstate)
    have htickets : succ32 callers.breaker.halfOpenRequests ≤ callers.calls :=
      le_trans (succ32_le _) (h.tickets hstate)
    obtain ⟨taken, htaken⟩ : ∃ taken : Callers, taken = { callers.leaves caller with
      breaker := { callers.breaker with
        halfOpenRequests := succ32 callers.breaker.halfOpenRequests } } := ⟨_, rfl⟩
    have htakes : callers.takes config caller = taken.decides true := by
      simp [Callers.takes, Breaker.takeTicket, hroom, htaken]
    have hhalf : taken.breaker.state = .halfOpen := by rw [htaken]; exact hstate
    have hadmitted : taken.admitted = taken.calls := by rw [htaken]; exact h.admitted hstate
    have hcalls : taken.calls = callers.calls := by rw [htaken]; rfl
    have hbounded : (taken.decides true).Bounded config ↔
        taken.calls < config.halfOpenMaxRequests := bounded_decides hhalf hadmitted
    rw [htakes]
    refine ⟨hbounded.trans (by simp [hcalls, hstate]), fun hb => ?_⟩
    exact counted_decides hhalf hadmitted (hbounded.mp hb) (by rw [htaken]; exact htickets)
  · have hsame : (callers.takes config caller).breaker.state ≠ .halfOpen := by
      rw [Callers.takes, breaker_decides]
      exact hstate
    exact ⟨iff_of_true (fun hhalf => absurd hhalf hsame) fun hhalf => absurd hhalf hstate,
      fun _ => counted_of_not_halfOpen hsame⟩

lemma Counted.leavesAllowed (h : callers.Counted config) (caller : ℕ) :
    (((callers.leaves caller).decides true).Bounded config ↔
      (callers.breaker.state = .halfOpen → callers.calls < config.halfOpenMaxRequests)) ∧
      (((callers.leaves caller).decides true).Bounded config →
        ((callers.leaves caller).decides true).Counted config) := by
  by_cases hstate : callers.breaker.state = .halfOpen
  · have hbounded : ((callers.leaves caller).decides true).Bounded config ↔
        callers.calls < config.halfOpenMaxRequests := bounded_decides hstate (h.admitted hstate)
    refine ⟨hbounded.trans (by simp [hstate]), fun hb => ?_⟩
    exact counted_decides hstate (h.admitted hstate) (hbounded.mp hb) (h.tickets hstate).le
  · have hleft : (callers.leaves caller).breaker.state ≠ .halfOpen := hstate
    rw [decides_of_not_halfOpen hleft]
    exact ⟨iff_of_true (fun hhalf => absurd hhalf hleft) fun hhalf => absurd hhalf hstate,
      fun _ => counted_of_not_halfOpen hleft⟩

lemma bounded_passes_of_opened (hstate : callers.breaker.state = .opened) (caller : ℕ) :
    ((callers.passes caller).Bounded config ↔ 0 < config.halfOpenMaxRequests) ∧
      ((callers.passes caller).Bounded config → (callers.passes caller).Counted config) := by
  have hhalf : (callers.breaker.transitionToHalfOpen callers.now).state = .halfOpen := by
    simp [Breaker.transitionToHalfOpen, hstate]
  have hzero : (callers.breaker.transitionToHalfOpen callers.now).halfOpenRequests = 0 := by
    simp [Breaker.transitionToHalfOpen, hstate]
  have hbounded : (callers.passes caller).Bounded config ↔ 0 < config.halfOpenMaxRequests := by
    rw [passes, if_pos hstate]
    exact bounded_decides hhalf rfl
  refine ⟨hbounded, fun hb => ?_⟩
  rw [passes, if_pos hstate]
  exact counted_decides hhalf rfl (hbounded.mp hb) hzero.le

/-! ## The run -/

lemma Counted.step (h : callers.Counted config) (event : CallerEvent) :
    ((callers.step config event).Bounded config ↔ callers.Careful config event) ∧
      ((callers.step config event).Bounded config → (callers.step config event).Counted config) := by
  have hstill {after : Callers} (hafter : after.Counted config) {P : Prop} (hP : P) :
      (after.Bounded config ↔ P) ∧ (after.Bounded config → after.Counted config) :=
    ⟨iff_of_true hafter.bounded hP, fun _ => hafter⟩
  cases event with
  | asks caller =>
    refine hstill ?_ trivial
    show (match callers.stages caller with
      | none => callers.reads caller
      | some _ => callers).Counted config
    cases callers.stages caller with
    | some stage => exact h
    | none =>
      show (callers.reads caller).Counted config
      unfold reads
      cases callers.breaker.state with
      | closed => exact h
      | halfOpen | opened => exact ⟨h.admitted, h.calls, h.tickets⟩
  | goesOn caller =>
    show (_ ↔ callers.Room config (callers.stages caller)) ∧ _
    cases hstage : callers.stages caller with
    | none => simpa [Callers.step, hstage, Room] using hstill h trivial
    | some stage =>
      cases stage with
      | ticket => simpa [Callers.step, hstage, Room] using h.takes caller
      | openedAt =>
        have hlooks : callers.step config (.goesOn caller) = callers.looks config caller := by
          simp [Callers.step, hstage]
        rw [hlooks]
        cases hopened : callers.breaker.openedAt with
        | none =>
          have hleft : callers.looks config caller = (callers.leaves caller).decides true := by
            simp [looks, Breaker.cooldown, hopened]
          rw [hleft]
          simpa [Room, hopened] using h.leavesAllowed caller
        | some time =>
          refine hstill ?_ fun _ hnone => by
            rw [hopened] at hnone
            cases hnone
          unfold looks
          split
          case h_1 hnone =>
            unfold Breaker.cooldown at hnone
            rw [hopened] at hnone
            dsimp only at hnone
            split at hnone <;> cases hnone
          case h_2 => exact ⟨h.admitted, h.calls, h.tickets⟩
          case h_3 => exact ⟨h.admitted, h.calls, h.tickets⟩
      | transition =>
        have hpasses : callers.step config (.goesOn caller) = callers.passes caller := by
          simp [Callers.step, hstage]
        rw [hpasses]
        cases hstate : callers.breaker.state with
        | opened => simpa [Room, hstate] using bounded_passes_of_opened hstate caller
        | closed | halfOpen =>
          have hleft : callers.passes caller = (callers.leaves caller).decides true := by
            simp [passes, hstate]
          rw [hleft]
          simpa [Room, hstate] using h.leavesAllowed caller
  | succeeded =>
    refine hstill ?_ trivial
    refine ⟨fun hhalf => h.admitted (halfOpen_recordSuccess hhalf).1,
      fun hhalf => h.calls (halfOpen_recordSuccess hhalf).1, fun hhalf => ?_⟩
    obtain ⟨hstate, hsame⟩ := halfOpen_recordSuccess hhalf
    exact hsame.symm ▸ h.tickets hstate
  | failed error isRateLimit =>
    refine hstill ?_ trivial
    refine ⟨fun hhalf => h.admitted (halfOpen_recordFailure hhalf).1,
      fun hhalf => h.calls (halfOpen_recordFailure hhalf).1, fun hhalf => ?_⟩
    obtain ⟨hstate, hsame⟩ := halfOpen_recordFailure hhalf
    exact hsame.symm ▸ h.tickets hstate
  | waited duration =>
    refine hstill ?_ trivial
    exact ⟨h.admitted, h.calls, h.tickets⟩

/-- **The probes are bounded** in exactly the interleavings in which no more calls come to a
decision in a half-open phase than may be admitted: up to there, and one beyond, every call is
admitted. -/
theorem throughout_bounded_iff (config : BreakerConfig) (now : ℕ) (events : List CallerEvent) :
    Throughout (step config) (fun callers event => (callers.step config event).Bounded config)
        (start now) events ↔
      Throughout (step config) (Careful config) (start now) events :=
  throughout_iff (Counted config)
    (counted_of_not_halfOpen (show CircuitState.closed ≠ .halfOpen by decide))
    (fun _ h event _ => (h.step event).1) fun _ h event _ hbounded => (h.step event).2 hbounded

/-! ## One probe that are two -/

/-- A breaker that opens on the first failure and takes one probe. -/
def oneProbe : BreakerConfig :=
  { failureThreshold := 1
    successThreshold := 1
    openDuration := 10
    halfOpenMaxRequests := 1
    ignoreRateLimits := false
    minStateDuration := 0 }

/-- A caller makes the transition, and a second one takes the ticket. -/
def secondProbe : List CallerEvent :=
  [.failed "error" false, .waited 10, .asks 1, .goesOn 1, .goesOn 1, .asks 2, .goesOn 2]

/-- **Two requests are admitted** in a half-open phase that allows one. -/
theorem not_bounded :
    let callers := secondProbe.foldl (step oneProbe) (start 0)
    callers.breaker.state = .halfOpen ∧ callers.admitted = 2 ∧ oneProbe.halfOpenMaxRequests = 1 ∧
      ¬ Throughout (step oneProbe) (fun callers event =>
        (callers.step oneProbe event).Bounded oneProbe) (start 0) secondProbe := by
  refine ⟨by decide +kernel, by decide +kernel, rfl, fun hbounded => ?_⟩
  have hlast : Throughout (step oneProbe) (fun callers event =>
      (callers.step oneProbe event).Bounded oneProbe) (start 0)
        ([.failed "error" false, .waited 10, .asks 1, .goesOn 1, .goesOn 1, .asks 2] ++
          [.goesOn 2]) := hbounded
  exact absurd (hlast.last (by decide +kernel)) (by decide +kernel)

end Callers

end Dripline.Rpc
