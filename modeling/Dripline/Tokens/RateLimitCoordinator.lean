import Mathlib.Data.Nat.Notation
import Mathlib.Logic.Function.Basic
import Dripline.Found.Trace

/-!
# The budgets of the token sources

`tokens/updates/rate_limiter.rs`. A semaphore is the number of its permits; it is never closed.

* `withinBudget_iff` — exactly when no permit is used that was left over, or was given back.
-/

namespace Dripline.Tokens.RateLimitCoordinator

open Dripline.Found.Trace (Throughout)

/-- Source: `rate_limiter.rs`, the semaphores of `RateLimitCoordinator` -/
inductive Endpoint
  | dexscreenerBatch
  | dexscreenerProfiles
  | dexscreenerBoosts
  | dexscreenerPools
  | geckoterminal
  | rugcheck
  deriving DecidableEq

/-- Source: `config/schemas/tokens.rs`, `rate_limit_per_minute` of the sources -/
structure Sources where
  geckoterminal : ℕ
  rugcheck : ℕ

/-- Source: `apis/geckoterminal/mod.rs`, `RATE_LIMIT_PER_MINUTE` -/
def geckoDefaultPerMinute : ℕ := 30

/-- Source: `apis/rugcheck/mod.rs`, `RATE_LIMIT_PER_MINUTE` -/
def rugDefaultPerMinute : ℕ := 60

/-- The budgets of an endpoint. Source: `rate_limiter.rs`, `RateLimitCoordinator::new`,
`apis/dexscreener/mod.rs` -/
def budget (sources : Sources) : Endpoint → ℕ
  | .dexscreenerBatch => 300
  | .dexscreenerProfiles => 60
  | .dexscreenerBoosts => 60
  | .dexscreenerPools => 300
  | .geckoterminal =>
    if sources.geckoterminal = 0 then geckoDefaultPerMinute else sources.geckoterminal
  | .rugcheck => if sources.rugcheck = 0 then rugDefaultPerMinute else sources.rugcheck

/-- The permits of an endpoint, those that are held, and what happened since it was last refilled:
how many permits were left over then, and how many were acquired and dropped after. -/
structure Meter where
  available : ℕ
  held : ℕ
  left : ℕ
  acquired : ℕ
  dropped : ℕ

/-- A call of one endpoint's `acquire` that gets its permit, a permit that is dropped, and what
`refill_all` does to an endpoint. -/
inductive Event
  | acquire (endpoint : Endpoint)
  | drop (endpoint : Endpoint)
  | refill (endpoint : Endpoint)

namespace Meter

/-- Source: `acquire_owned`; a call waits while there is no permit -/
def acquire (meter : Meter) : Meter :=
  if meter.available = 0 then meter
  else { meter with
    available := meter.available - 1
    held := meter.held + 1
    acquired := meter.acquired + 1 }

/-- Source: `OwnedSemaphorePermit`, `drop` -/
def drop (meter : Meter) : Meter :=
  if meter.held = 0 then meter
  else { meter with
    available := meter.available + 1
    held := meter.held - 1
    dropped := meter.dropped + 1 }

/-- Source: `rate_limiter.rs`, `refill_all`, of one endpoint -/
def refill (budget : ℕ) (meter : Meter) : Meter where
  available := if 0 < budget then meter.available + budget else meter.available
  held := meter.held
  left := meter.available
  acquired := 0
  dropped := 0

end Meter

/-- The endpoints of a coordinator. -/
abbrev State := Endpoint → Meter

/-- A new coordinator. Source: `rate_limiter.rs`, `RateLimitCoordinator::new` -/
def start (sources : Sources) : State := fun endpoint => ⟨budget sources endpoint, 0, 0, 0, 0⟩

/-- One step. -/
def step (sources : Sources) (state : State) : Event → State
  | .acquire endpoint => Function.update state endpoint (state endpoint).acquire
  | .drop endpoint => Function.update state endpoint (state endpoint).drop
  | .refill endpoint =>
    Function.update state endpoint ((state endpoint).refill (budget sources endpoint))

/-- The endpoints, in the order they are refilled. Source: `rate_limiter.rs` -/
def refillAll : List Event :=
  [.refill .dexscreenerBatch, .refill .dexscreenerProfiles, .refill .dexscreenerBoosts,
    .refill .dexscreenerPools, .refill .geckoterminal, .refill .rugcheck]

/-- **No endpoint is called more often** than its budget since it was refilled. -/
def WithinBudget (sources : Sources) (state : State) : Prop :=
  ∀ endpoint, (state endpoint).acquired ≤ budget sources endpoint

/-- A permit that is acquired is one of the budget: there are more than were left over at the
refill and were dropped since. -/
def OfBudget (state : State) (event : Event) : Prop :=
  ∀ endpoint, event = .acquire endpoint → (state endpoint).available ≠ 0 →
    (state endpoint).left + (state endpoint).dropped < (state endpoint).available

/-! ## Permits -/

/-- Where the permits of an endpoint are from. -/
def Counted (budget : ℕ) (meter : Meter) : Prop :=
  meter.available + meter.acquired = meter.left + budget + meter.dropped

section Permits

variable {sources : Sources} {state : State}

lemma counted_step (h : ∀ endpoint, Counted (budget sources endpoint) (state endpoint))
    (event : Event) (endpoint : Endpoint) :
    Counted (budget sources endpoint) (step sources state event endpoint) := by
  have hsame : ∀ (other : Endpoint) (meter : Meter), Counted (budget sources other) meter →
      Counted (budget sources endpoint) (Function.update state other meter endpoint) := by
    intro other meter hmeter
    by_cases heq : endpoint = other
    · subst heq
      rwa [Function.update_self]
    · rw [Function.update_of_ne heq]
      exact h endpoint
  cases event with
  | acquire other =>
    apply hsame
    have hcount := h other
    unfold Counted at hcount ⊢
    unfold Meter.acquire
    split
    · exact hcount
    · simp only
      omega
  | drop other =>
    apply hsame
    have hcount := h other
    unfold Counted at hcount ⊢
    unfold Meter.drop
    split
    · exact hcount
    · simp only
      omega
  | refill other =>
    apply hsame
    simp only [Counted, Meter.refill]
    split <;> omega

lemma withinBudget_step_iff (hcounted : ∀ endpoint, Counted (budget sources endpoint) (state endpoint))
    (h : WithinBudget sources state) (event : Event) :
    WithinBudget sources (step sources state event) ↔ OfBudget state event := by
  have hsame : ∀ (other : Endpoint) (meter : Meter),
      (WithinBudget sources (Function.update state other meter) ↔
        meter.acquired ≤ budget sources other) := by
    intro other meter
    constructor
    · intro hall
      simpa using hall other
    · intro hmeter endpoint
      by_cases heq : endpoint = other
      · subst heq
        rwa [Function.update_self]
      · rw [Function.update_of_ne heq]
        exact h endpoint
  cases event with
  | acquire other =>
    have hcount := hcounted other
    have hbudget := h other
    unfold Counted at hcount
    simp only [step, hsame, Meter.acquire]
    constructor
    · rintro hwithin endpoint hevent hsome
      obtain rfl := Event.acquire.inj hevent
      rw [if_neg hsome] at hwithin
      simp only at hwithin
      omega
    · intro hof
      split
      · exact hbudget
      · rename_i hsome
        have := hof other rfl hsome
        simp only
        omega
  | drop other =>
    simp only [step, hsame, Meter.drop]
    refine ⟨fun _ => nofun, fun _ => ?_⟩
    split
    · exact h other
    · exact h other
  | refill other =>
    simp only [step, hsame, Meter.refill]
    exact ⟨fun _ => nofun, fun _ => Nat.zero_le _⟩

end Permits

/-- **Every endpoint stays within its budget** between two refills, exactly when no permit is
acquired that was left over at the refill before, or was dropped since. -/
theorem withinBudget_iff (sources : Sources) (run : List Event) :
    Throughout (step sources) (fun state event => WithinBudget sources (step sources state event))
        (start sources) run ↔
      Throughout (step sources) OfBudget (start sources) run := by
  apply Found.Trace.throughout_iff fun state =>
    (∀ endpoint, Counted (budget sources endpoint) (state endpoint)) ∧ WithinBudget sources state
  · exact ⟨fun endpoint => by simp [Counted, start], fun endpoint => Nat.zero_le _⟩
  · rintro state ⟨hcounted, h⟩ event -
    exact withinBudget_step_iff hcounted h event
  · rintro state ⟨hcounted, -⟩ event - hnext
    exact ⟨counted_step hcounted event, hnext⟩

/-- **A quiet minute** doubles what can be called in the next. -/
theorem not_withinBudget :
    ¬ ∀ (sources : Sources) (run : List Event),
      Throughout (step sources)
        (fun state event => WithinBudget sources (step sources state event)) (start sources) run := by
  intro h
  have hrun := h ⟨1, 1⟩ (refillAll ++ [.acquire .geckoterminal, .acquire .geckoterminal])
  have hlast := Found.Trace.Throughout.last (l := refillAll ++ [.acquire .geckoterminal]) hrun
  exact absurd (hlast .geckoterminal) (by decide)

end Dripline.Tokens.RateLimitCoordinator
