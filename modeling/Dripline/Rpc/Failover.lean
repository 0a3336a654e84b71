import Dripline.Rpc.Breaker

/-!
# Failover between the providers

`rpc/manager.rs`, with `rpc/errors.rs` and the provider states of `rpc/types.rs`.

* `failsOver_iff` — a request reaches a provider that admits it exactly when one is among the first
  selected.

A source without a file is in `manager.rs`.
-/

namespace Dripline.Rpc

open List

/-- Source: `provider/config.rs`, `ProviderConfig`, what selection reads of it -/
structure ProviderConfig where
  id : String
  priority : ℕ
  enabled : Bool
  deriving DecidableEq

/-- Source: `rpc/types.rs`, `ProviderState`, what selection reads of it -/
structure ProviderState where
  enabled : Bool
  circuitState : CircuitState
  avgLatencyMs : ℚ
  totalCalls : ℕ
  totalErrors : ℕ

namespace ProviderState

/-- Source: `types.rs` -/
def successRate (state : ProviderState) : ℚ :=
  if state.totalCalls = 0 then 100
  else 100 * ((state.totalCalls - state.totalErrors : ℕ) : ℚ) / state.totalCalls

/-- Source: `types.rs` -/
def isHealthy (state : ProviderState) : Bool :=
  state.enabled && state.circuitState == .closed

end ProviderState

/-- Source: `rpc/types.rs` -/
inductive SelectionStrategy
  | roundRobin
  | priority
  | latencyBased
  | adaptive

/-- Source: `rpc/errors.rs`, `RpcError`; times are nanoseconds -/
inductive RpcError
  | rateLimited (providerId : String) (retryAfter : Option ℕ)
  | network (message : String) (isTimeout : Bool)
  | providerError (code : ℤ) (message : String) (data : Option String)
  | timeout (providerId : String) (after : ℕ)
  | circuitOpen (providerId : String) (retryAfter : ℕ)
  | noProvidersAvailable (lastError : Option String)
  | accountNotFound (pubkey : String)
  | invalidResponse (message : String)
  | configuration (message : String)
  | other (message : String)

namespace RpcError

/-- Source: `errors.rs` -/
def isRetryable : RpcError → Bool
  | .rateLimited _ _ => true
  | .network _ _ => true
  | .timeout _ _ => true
  | .providerError code _ _ => decide (-32099 ≤ code) && decide (code ≤ -32000)
  | _ => false

/-- The text of an error, over how the library prints a duration. Source: `errors.rs` -/
def display (debug : ℕ → String) : RpcError → String
  | .rateLimited providerId retryAfter =>
    "Rate limited by " ++ providerId ++
      match retryAfter with
      | some time => " (retry after " ++ debug time ++ ")"
      | none => ""
  | .network message isTimeout =>
    (if isTimeout then "Network timeout: " else "Network error: ") ++ message
  | .providerError code message _ => "Provider error " ++ toString code ++ ": " ++ message
  | .timeout providerId time => "Timeout after " ++ debug time ++ " from " ++ providerId
  | .circuitOpen providerId retryAfter =>
    "Circuit open for " ++ providerId ++ " (retry after " ++ debug retryAfter ++ ")"
  | .noProvidersAvailable lastError =>
    "No providers available" ++
      match lastError with
      | some text => ": " ++ text
      | none => ""
  | .accountNotFound pubkey => "Account not found: " ++ pubkey
  | .invalidResponse message => "Invalid response: " ++ message
  | .configuration message => "Configuration error: " ++ message
  | .other message => message

end RpcError

/-- What one attempt finds: the states, the round robin index, the breakers and the time, and what
each provider would reply to the request. -/
structure View (α : Type) where
  states : String → Option ProviderState
  roundRobinIndex : ℕ
  breakers : String → Breaker
  now : ℕ
  reply : ProviderConfig → Except RpcError α

/-- What the manager was set up with. -/
structure Manager where
  providers : List ProviderConfig
  strategy : SelectionStrategy
  breaker : BreakerConfig
  maxRetries : ℕ

/-- What became of a try: the breaker refused, or the request went out and was answered or
failed. -/
inductive Verdict (α : Type)
  | refused (retryAfter : ℕ)
  | answered (value : α)
  | failed (error : RpcError)

/-- One try of a request. -/
structure Try (α : Type) where
  provider : ProviderConfig
  verdict : Verdict α

/-- The request went out. -/
def Try.Sent {α : Type} (made : Try α) : Prop := ∀ retryAfter, made.verdict ≠ .refused retryAfter

namespace Manager

variable {α : Type} (manager : Manager)

/-! ## Selection -/

/-- The largest finite number of the format. -/
def f64Max : ℚ := (2 ^ 53 - 1) * 2 ^ 971

variable (view : View α)

/-- Source: `select_provider`, the key of `LatencyBased` -/
def latency (provider : ProviderConfig) : ℚ :=
  ((view.states provider.id).map (·.avgLatencyMs)).getD f64Max

/-- Source: `calculate_provider_score` -/
def calculateProviderScore (provider : ProviderConfig) : ℚ :=
  match view.states provider.id with
  | none => 50
  | some state =>
    state.successRate * (7 / 10) +
      (if 0 < state.avgLatencyMs then min (1000 / state.avgLatencyMs) 20 else 20) +
      (10 - (provider.priority : ℚ) / (255 / 10))

/-- Source: `select_provider`, the filter -/
def available (excluded : List String) : List ProviderConfig :=
  manager.providers.filter fun provider =>
    provider.enabled && !excluded.contains provider.id &&
      (view.states provider.id).all (·.isHealthy)

/-- The first of the least, and the last of the greatest, as `min_by` and `max_by` have it. Source:
`select_provider`, the strategies -/
def choose (available : List ProviderConfig) : Option ProviderConfig :=
  match manager.strategy with
  | .roundRobin => available[view.roundRobinIndex % available.length]?
  | .priority => available.head?
  | .latencyBased => available.argmin (latency view)
  | .adaptive => available.reverse.argmax (calculateProviderScore view)

/-- Source: `select_provider` -/
def selectProvider (excluded : List String) : Option ProviderConfig :=
  if (manager.available view excluded).isEmpty then
    match manager.providers.find? fun provider =>
        provider.enabled && !excluded.contains provider.id with
    | some provider => some provider
    | none => manager.providers.find? (·.enabled)
  else manager.choose view (manager.available view excluded)

variable {provider : ProviderConfig}

lemma mem_of_choose {view : View α} {providers : List ProviderConfig}
    (h : manager.choose view providers = some provider) : provider ∈ providers := by
  unfold choose at h
  cases hstrategy : manager.strategy with
  | roundRobin => exact mem_of_getElem? (by simpa [hstrategy] using h)
  | priority => exact mem_of_mem_head? (by simpa [hstrategy] using h)
  | latencyBased => exact argmin_mem (by simpa [hstrategy] using h)
  | adaptive =>
    have hmem : provider ∈ providers.reverse := argmax_mem (by simpa [hstrategy] using h)
    exact mem_reverse.mp hmem

lemma choose_eq_none_iff (view : View α) (providers : List ProviderConfig) :
    manager.choose view providers = none ↔ providers = [] := by
  unfold choose
  cases manager.strategy with
  | roundRobin =>
    simp only [List.getElem?_eq_none_iff]
    constructor
    · intro hle
      by_contra hne
      exact absurd (Nat.mod_lt view.roundRobinIndex (length_pos_iff.mpr hne)) (by omega)
    · intro hnil
      simp [hnil]
  | priority => simp
  | latencyBased => simp
  | adaptive => simp

variable {excluded : List String}

lemma selectProvider_spec {view : View α} (h : manager.selectProvider view excluded = some provider) :
    provider ∈ manager.providers ∧ provider.enabled = true ∧
      (provider.id ∈ excluded →
        ∀ other ∈ manager.providers, other.enabled = true → other.id ∈ excluded) := by
  unfold selectProvider at h
  split at h
  case isFalse =>
    have hmem : provider ∈ manager.available view excluded := manager.mem_of_choose h
    simp only [available, mem_filter, Bool.and_eq_true, Bool.not_eq_true',
      contains_eq_mem, decide_eq_false_iff_not] at hmem
    exact ⟨hmem.1, hmem.2.1.1, fun htried => absurd htried hmem.2.1.2⟩
  case isTrue =>
    split at h
    case h_1 found hfound =>
      obtain rfl : found = provider := by simpa using h
      have hfresh := List.find?_some hfound
      simp only [Bool.and_eq_true, Bool.not_eq_true', contains_eq_mem,
        decide_eq_false_iff_not] at hfresh
      exact ⟨mem_of_find?_eq_some hfound, hfresh.1, fun htried => absurd htried hfresh.2⟩
    case h_2 hnone =>
      refine ⟨mem_of_find?_eq_some h, List.find?_some h, fun _ other hother henabled => ?_⟩
      have hother' := List.find?_eq_none.mp hnone other hother
      simpa [henabled] using hother'

lemma selectProvider_eq_none {view : View α} (h : manager.selectProvider view excluded = none) :
    ∀ provider ∈ manager.providers, provider.enabled = false := by
  unfold selectProvider at h
  split at h
  case isFalse hsome =>
    exact absurd ((manager.choose_eq_none_iff view _).mp h) (by simpa using hsome)
  case isTrue =>
    split at h
    case h_1 => cases h
    case h_2 =>
      intro provider hprovider
      simpa using List.find?_eq_none.mp h provider hprovider

/-! ## The attempts -/

variable (view : View α)

/-- The breaker of a provider admits a request. -/
def Admits (provider : ProviderConfig) : Prop :=
  ((view.breakers provider.id).canExecute manager.breaker view.now).2 = .allowed

/-- Source: `execute_raw`, the breaker and the request -/
def tryProvider (provider : ProviderConfig) : Try α where
  provider := provider
  verdict :=
    match ((view.breakers provider.id).canExecute manager.breaker view.now).2 with
    | .wait duration => .refused duration
    | .allowed =>
      match view.reply provider with
      | .ok value => .answered value
      | .error error => .failed error

@[simp] lemma provider_tryProvider (provider : ProviderConfig) :
    (manager.tryProvider view provider).provider = provider := rfl

@[simp] lemma sent_tryProvider (provider : ProviderConfig) :
    (manager.tryProvider view provider).Sent ↔ manager.Admits view provider := by
  unfold Try.Sent Admits tryProvider
  cases ((view.breakers provider.id).canExecute manager.breaker view.now).2 with
  | wait duration => simp
  | allowed => cases view.reply provider <;> simp

variable (debug : ℕ → String) (views : ℕ → View α)

/-- Source: `execute_raw`, the loop, from an attempt on with so many left -/
def attempts : ℕ → ℕ → List String → Option RpcError → List (Try α) × Except RpcError α
  | 0, _, _, lastError => ([], .error (lastError.getD (.noProvidersAvailable none)))
  | left + 1, retry, tried, lastError =>
    match manager.selectProvider (views retry) tried with
    | none => ([], .error (.noProvidersAvailable (lastError.map (·.display debug))))
    | some provider =>
      let made := manager.tryProvider (views retry) provider
      let rest := fun error => attempts left (retry + 1) (tried ++ [provider.id]) (some error)
      match made.verdict with
      | .refused retryAfter =>
        (made :: (rest (.circuitOpen provider.id retryAfter)).1,
          (rest (.circuitOpen provider.id retryAfter)).2)
      | .answered value => ([made], .ok value)
      | .failed error =>
        if error.isRetryable then (made :: (rest error).1, (rest error).2)
        else ([made], .error error)

/-- The relay comes first, for the methods it takes. Source: `execute_raw` -/
def executeRaw (relayed : Option α) : List (Try α) × Except RpcError α :=
  match relayed with
  | some value => ([], .ok value)
  | none => manager.attempts debug views (manager.maxRetries + 1) 0 [] none

lemma attempts_cases (left retry : ℕ) (tried : List String) (lastError : Option RpcError) :
    (manager.selectProvider (views retry) tried = none ∧
      (manager.attempts debug views (left + 1) retry tried lastError).1 = [] ∧
      ∀ value, (manager.attempts debug views (left + 1) retry tried lastError).2 ≠ .ok value) ∨
    ∃ provider, manager.selectProvider (views retry) tried = some provider ∧
      ((∃ error, manager.attempts debug views (left + 1) retry tried lastError =
          (manager.tryProvider (views retry) provider ::
              (manager.attempts debug views left (retry + 1) (tried ++ [provider.id]) (some error)).1,
            (manager.attempts debug views left (retry + 1) (tried ++ [provider.id]) (some error)).2)) ∨
        (manager.tryProvider (views retry) provider).Sent ∧
          (manager.attempts debug views (left + 1) retry tried lastError).1 =
            [manager.tryProvider (views retry) provider]) := by
  rw [attempts]
  cases hselected : manager.selectProvider (views retry) tried with
  | none => exact .inl ⟨rfl, rfl, fun value h => by cases h⟩
  | some provider =>
    refine .inr ⟨provider, rfl, ?_⟩
    dsimp only
    cases hverdict : (manager.tryProvider (views retry) provider).verdict with
    | refused retryAfter => exact .inl ⟨_, rfl⟩
    | answered value =>
      exact .inr ⟨fun retryAfter => by rw [hverdict]; simp, rfl⟩
    | failed error =>
      dsimp only
      split
      · exact .inl ⟨error, rfl⟩
      · exact .inr ⟨fun retryAfter => by rw [hverdict]; simp, rfl⟩

variable {manager debug views}

lemma enabled_of_attempts (left : ℕ) :
    ∀ (retry : ℕ) (tried : List String) (lastError : Option RpcError),
    ∀ made ∈ (manager.attempts debug views left retry tried lastError).1,
      made.provider ∈ manager.providers ∧ made.provider.enabled = true := by
  induction left with
  | zero => simp [attempts]
  | succ left ih =>
    intro retry tried lastError made hmade
    obtain ⟨-, hnone, -⟩ | ⟨provider, hselected, hrest⟩ :=
      attempts_cases manager debug views left retry tried lastError
    · simp [hnone] at hmade
    · obtain ⟨hprovider, henabled, -⟩ := manager.selectProvider_spec hselected
      obtain ⟨error, heq⟩ | ⟨-, heq⟩ := hrest
      · rw [heq] at hmade
        obtain rfl | hafter := mem_cons.mp hmade
        · exact ⟨hprovider, henabled⟩
        · exact ih _ _ _ made hafter
      · rw [heq] at hmade
        obtain rfl := mem_singleton.mp hmade
        exact ⟨hprovider, henabled⟩

lemma fresh_of_attempts (left : ℕ) :
    ∀ (retry : ℕ) (tried : List String) (lastError : Option RpcError),
    ∀ before made after,
      (manager.attempts debug views left retry tried lastError).1 = before ++ made :: after →
      made.provider.id ∈ tried ++ before.map (·.provider.id) →
      ∀ other ∈ manager.providers, other.enabled = true →
        other.id ∈ tried ++ before.map (·.provider.id) := by
  induction left with
  | zero => simp [attempts]
  | succ left ih =>
    intro retry tried lastError before made after hmade htried
    obtain ⟨-, hnone, -⟩ | ⟨provider, hselected, hrest⟩ :=
      attempts_cases manager debug views left retry tried lastError
    · simp [hnone] at hmade
    · cases before with
      | nil =>
        have hfirst : made = manager.tryProvider (views retry) provider := by
          obtain ⟨error, heq⟩ | ⟨-, heq⟩ := hrest
          · rw [heq] at hmade
            exact (List.cons.inj hmade).1.symm
          · rw [heq] at hmade
            exact (List.cons.inj hmade).1.symm
        subst hfirst
        simpa using (manager.selectProvider_spec hselected).2.2 (by simpa using htried)
      | cons first before =>
        obtain ⟨error, heq⟩ | ⟨-, heq⟩ := hrest
        · rw [heq] at hmade
          obtain ⟨hfirst, hafter⟩ := List.cons.inj hmade
          subst hfirst
          have hmade' :=
              ih (retry + 1) (tried ++ [provider.id]) (some error) before made after hafter
          simpa using hmade' (by simpa using htried)
        · rw [heq] at hmade
          simp at hmade

/-! ## Who is selected -/

variable (manager views)

/-- The providers in the order in which they are selected, each with those before it excluded. -/
def order : ℕ → List ProviderConfig
  | 0 => []
  | attempt + 1 =>
    order attempt ++
      (manager.selectProvider (views attempt) ((order attempt).map (·.id))).toList

/-- The one that is selected at an attempt, when all before it were refused. -/
def selected (attempt : ℕ) : Option ProviderConfig :=
  manager.selectProvider (views attempt) ((manager.order views attempt).map (·.id))

/-- One of so many that are selected next is admitted by its breaker. -/
def SomeAdmitted (start stop : ℕ) : Prop :=
  ∃ attempt, start ≤ attempt ∧ attempt < stop ∧
    ∃ provider, manager.selected views attempt = some provider ∧
      manager.Admits (views attempt) provider

variable {manager views}

lemma order_succ {attempt : ℕ} (h : manager.selected views attempt = some provider) :
    manager.order views (attempt + 1) = manager.order views attempt ++ [provider] := by
  rw [order, show manager.selectProvider _ _ = _ from h]
  rfl

lemma someAdmitted_succ {start : ℕ} (h : manager.selected views start = some provider) (left : ℕ) :
    manager.SomeAdmitted views start (start + (left + 1)) ↔
      manager.Admits (views start) provider ∨
        manager.SomeAdmitted views (start + 1) (start + 1 + left) := by
  constructor
  · rintro ⟨attempt, hstart, hstop, admitted, hselected, hadmits⟩
    obtain rfl | hlater := hstart.eq_or_lt
    · obtain rfl : provider = admitted := Option.some.inj (h.symm.trans hselected)
      exact .inl hadmits
    · exact .inr ⟨attempt, hlater, by omega, admitted, hselected, hadmits⟩
  · rintro (hadmits | ⟨attempt, hstart, hstop, admitted, hselected, hadmits⟩)
    · exact ⟨start, le_rfl, by omega, provider, h, hadmits⟩
    · exact ⟨attempt, by omega, by omega, admitted, hselected, hadmits⟩

lemma not_someAdmitted (h : ∀ provider ∈ manager.providers, provider.enabled = false)
    (start stop : ℕ) : ¬ manager.SomeAdmitted views start stop := by
  rintro ⟨attempt, -, -, provider, hselected, -⟩
  obtain ⟨hprovider, henabled, -⟩ := manager.selectProvider_spec hselected
  simp [h provider hprovider] at henabled

variable (manager debug views)

lemma sent_iff (left : ℕ) : ∀ (start : ℕ) (lastError : Option RpcError),
    ((∃ made ∈ (manager.attempts debug views left start
        ((manager.order views start).map (·.id)) lastError).1, made.Sent) ↔
      manager.SomeAdmitted views start (start + left)) ∧
    ((∃ value, (manager.attempts debug views left start
        ((manager.order views start).map (·.id)) lastError).2 = .ok value) →
      manager.SomeAdmitted views start (start + left)) := by
  induction left with
  | zero =>
    intro start lastError
    refine ⟨iff_of_false (by simp [attempts]) ?_, by simp [attempts]⟩
    rintro ⟨attempt, hstart, hstop, -⟩
    omega
  | succ left ih =>
    intro start lastError
    obtain ⟨hselected, hnone, hresult⟩ | ⟨provider, hselected, hrest⟩ :=
      attempts_cases manager debug views left start
        ((manager.order views start).map (·.id)) lastError
    · refine ⟨iff_of_false (by simp [hnone]) ?_,
        fun ⟨value, hvalue⟩ => absurd hvalue (hresult value)⟩
      exact not_someAdmitted (manager.selectProvider_eq_none hselected) _ _
    · have htried : (manager.order views start).map (·.id) ++ [provider.id] =
          (manager.order views (start + 1)).map (·.id) := by
        simp [order_succ hselected]
      rw [someAdmitted_succ hselected]
      obtain ⟨error, heq⟩ | ⟨hsent, heq⟩ := hrest
      · rw [heq, htried]
        obtain ⟨hiff, hok⟩ := ih (start + 1) (some error)
        refine ⟨?_, fun hvalue => .inr (hok hvalue)⟩
        simp only [mem_cons, exists_eq_or_imp, sent_tryProvider]
        rw [hiff]
      · have hadmits : manager.Admits (views start) provider :=
            (manager.sent_tryProvider _ _).mp hsent
        refine ⟨iff_of_true ?_ (.inl hadmits), fun _ => .inl hadmits⟩
        rw [heq]
        exact ⟨_, mem_singleton_self _, hsent⟩

/-! ## Failover -/

/-- Some enabled provider's breaker admits requests at every attempt. -/
def Reachable : Prop :=
  ∃ provider ∈ manager.providers, provider.enabled = true ∧
    ∀ attempt ≤ manager.maxRetries, manager.Admits (views attempt) provider

/-- A request is sent to enabled providers only, tries one again only when every enabled one was
tried, and does not fail unsent while some provider is reachable. -/
structure FailsOver (relayed : Option α) : Prop where
  enabled : ∀ made ∈ (manager.executeRaw debug views relayed).1,
    made.provider ∈ manager.providers ∧ made.provider.enabled = true
  fresh : ∀ before made after,
    (manager.executeRaw debug views relayed).1 = before ++ made :: after →
      made.provider.id ∈ before.map (·.provider.id) →
      ∀ other ∈ manager.providers, other.enabled = true → other.id ∈ before.map (·.provider.id)
  sent : manager.Reachable views → ∀ error, (manager.executeRaw debug views relayed).2 = .error error →
    ∃ made ∈ (manager.executeRaw debug views relayed).1, made.Sent

/-- The relay answers, or one of the providers selected for the attempts is admitted, if any is
reachable. -/
def Careful (relayed : Option α) : Prop :=
  manager.Reachable views →
    relayed.isSome ∨ manager.SomeAdmitted views 0 (manager.maxRetries + 1)

/-- **A request fails over** exactly when one of the providers that are selected first, one for each
attempt, admits it, or the relay answers, or no provider is reachable. -/
theorem failsOver_iff (relayed : Option α) :
    manager.FailsOver debug views relayed ↔ manager.Careful views relayed := by
  unfold Careful
  cases relayed with
  | some value =>
    refine iff_of_true ⟨?_, ?_, ?_⟩ (fun _ => .inl rfl)
    · simp [executeRaw]
    · simp [executeRaw]
    · simp [executeRaw]
  | none =>
    have hfirst : manager.executeRaw debug views none =
        manager.attempts debug views (manager.maxRetries + 1) 0
          ((manager.order views 0).map (·.id)) none := rfl
    obtain ⟨hsent, hok⟩ := sent_iff manager debug views (manager.maxRetries + 1) 0 none
    rw [Nat.zero_add, ← hfirst] at hsent hok
    constructor
    · intro hover hreachable
      refine .inr ?_
      cases hresult : (manager.executeRaw debug views none).2 with
      | ok value => exact hok ⟨value, hresult⟩
      | error error => exact hsent.mp (hover.sent hreachable error hresult)
    · intro hcareful
      refine ⟨enabled_of_attempts _ 0 [] none, fun before made after hmade htried => ?_, ?_⟩
      · simpa using fresh_of_attempts _ 0 [] none before made after hmade (by simpa using htried)
      · intro hreachable error _
        obtain hrelayed | hadmitted := hcareful hreachable
        · cases hrelayed
        · exact hsent.mpr hadmitted

variable {manager views}

/-! ## Two open breakers before a closed one -/

/-- Three providers, by priority, and one retry. -/
def threeProviders : Manager :=
  { providers := [⟨"first", 0, true⟩, ⟨"second", 1, true⟩, ⟨"third", 2, true⟩]
    strategy := .priority
    breaker := BreakerRun.conservative
    maxRetries := 1 }

/-- Of every provider the state that it was set up with; the breakers of the first two have
opened. -/
def openBreakers : View String where
  states _ := some ⟨true, .closed, 0, 0, 0⟩
  roundRobinIndex := 0
  breakers id :=
    if id = "third" then .new 0
    else { Breaker.new 0 with state := .opened, openedAt := some 0 }
  now := 0
  reply _ := .ok "result"

/-- **The request is given up unsent**, though the third provider's breaker is closed. -/
theorem not_failsOver :
    threeProviders.Reachable (fun _ => openBreakers) ∧
      (threeProviders.executeRaw toString (fun _ => openBreakers) none).2 =
        .error (.circuitOpen "second" (60 * 10 ^ 9)) ∧
      ¬ threeProviders.FailsOver toString (fun _ => openBreakers) none := by
  have hreachable : threeProviders.Reachable (fun _ => openBreakers) :=
    ⟨⟨"third", 2, true⟩, by decide, rfl, fun _ _ => rfl⟩
  have hresult : (threeProviders.executeRaw toString (fun _ => openBreakers) none).2 =
      .error (.circuitOpen "second" (60 * 10 ^ 9)) := rfl
  refine ⟨hreachable, hresult, fun hover => ?_⟩
  obtain ⟨made, hmade, hsent⟩ := hover.sent hreachable _ hresult
  have htries : (threeProviders.executeRaw toString (fun _ => openBreakers) none).1 =
      [⟨⟨"first", 0, true⟩, .refused (60 * 10 ^ 9)⟩,
        ⟨⟨"second", 1, true⟩, .refused (60 * 10 ^ 9)⟩] := rfl
  rw [htries] at hmade
  simp only [mem_cons, not_mem_nil, or_false] at hmade
  obtain rfl | rfl := hmade
  · exact hsent _ rfl
  · exact hsent _ rfl

end Manager

end Dripline.Rpc
