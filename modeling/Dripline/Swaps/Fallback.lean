import Mathlib.Data.List.Sort
import Dripline.Swaps.Attempt

/-!
# A swap with fallback

`swaps/registry.rs` and `swaps/operations.rs`: one trade tried through the router that quoted it,
through the same router without the venue that refused it, and through the others in order.

* `executeSwapWithFallback` — the attempts that are made, and what the call returns.
* `Abandoned` — an attempt that others follow.
* `Lasting` — no transaction is handed over after one that lands.
-/

namespace Dripline.Swaps

open Dripline.Chain List

/-! ## The routers -/

/-- Source: `swaps/router.rs`, `SwapRouter` -/
structure Router where
  id : String
  name : String
  enabled : Bool
  priority : ℕ
  chain : String

/-- Source: `swaps/registry.rs` -/
def getRouter (registry : List Router) (id : String) : Option Router :=
  registry.find? fun router => router.id == id

/-- The other routers of the chain, by their priority.
Source: `swaps/registry.rs` -/
def getFallbackChainFor (registry : List Router) (chain failedRouterId : String) : List Router :=
  (registry.filter fun router =>
    router.enabled && router.chain == chain && router.id != failedRouterId).mergeSort
      fun a b => decide (a.priority ≤ b.priority)

/-- What a router is asked for; the slippage by its basis points.
Source: `swaps/types.rs` -/
structure QuoteRequest where
  chain : String
  inputMint : String
  outputMint : String
  inputAmount : ℕ
  walletAddress : String
  slippageBps : ℕ
  swapMode : String
  excludeDexes : Option (List String)

/-- The same trade, asked of a router again. -/
def QuoteRequest.again (quote : Quote) (excludeDexes : Option (List String)) : QuoteRequest where
  chain := quote.chain
  inputMint := quote.inputMint
  outputMint := quote.outputMint
  inputAmount := quote.inputAmount
  walletAddress := quote.walletAddress
  slippageBps := quote.slippageBps
  swapMode := quote.swapMode
  excludeDexes := excludeDexes

/-- **What a call meets**: the settings, the routers, the quotes they give that are valid answers to
what is asked of them, and the attempts, each by how many have been made before. -/
structure Network where
  forceStopped : Bool
  registry : Except Error (List Router)
  retryExcludingVenue : Bool
  venueLabel : String → Option String
  quote : ℕ → Router → QuoteRequest → Option Quote
  attempt : ℕ → Router → Quote → Attempt

/-! ## The call -/

/-- Text without the whitespace around it. -/
def trim (text : String) : List Char :=
  ((text.toList.dropWhile isWhitespace).reverse.dropWhile isWhitespace).reverse

/-- The venue is one of those the quote excludes already. -/
def isExcluded (excludeDexes : Option (List String)) (label : String) : Bool :=
  (excludeDexes.getD []).any fun excluded =>
    (trim excluded).map Char.toLower == label.toList.map Char.toLower

/-- The quote of the same router without the venue that refused the trade, if there is one to be
had. Source: `swaps/operations.rs`, `retry_excluding_venue` up to its execution -/
def retryQuote (network : Network) (router : Router) (quote : Quote) (error : Error) :
    Option Quote :=
  match error with
  | .solana (.swapCostRejected _ _ _ venueProgram) =>
    if network.retryExcludingVenue then
      (network.venueLabel venueProgram).bind fun label =>
        if isExcluded quote.excludeDexes label then none
        else network.quote 1 router
          (QuoteRequest.again quote (some (quote.excludeDexes.getD [] ++ [label])))
    else none
  | _ => none

/-- An attempt that leaves nothing to decide: it went through, or what it sent has a signature that
has to be followed up. -/
def settledBy (quote : Quote) (attempt : Attempt) : Option (Except Error SwapResult) :=
  match attempt.result quote with
  | .ok result => some (.ok result)
  | .error error =>
    if (unconfirmedSwapSignature error).isSome then some (.error error) else none

/-- The others, one after another, until one leaves nothing to decide.
Source: `swaps/operations.rs`, the loop of `execute_swap_with_fallback` -/
def tryFallbacks (network : Network) (quote : Quote) :
    List Router → List Attempt → List Attempt × Option (Except Error SwapResult)
  | [], made => (made, none)
  | router :: routers, made =>
    match network.quote made.length router (QuoteRequest.again quote quote.excludeDexes) with
    | none => tryFallbacks network quote routers made
    | some fallbackQuote =>
      let attempt := network.attempt made.length router fallbackQuote
      match settledBy fallbackQuote attempt with
      | some outcome => (made ++ [attempt], some outcome)
      | none => tryFallbacks network quote routers (made ++ [attempt])

/-- What is left once an attempt of the primary router has been given up.
Source: `swaps/operations.rs`, `execute_swap_with_fallback` after `retry_excluding_venue` -/
def fallBack (network : Network) (registry : List Router) (quote : Quote) (primaryError : Error)
    (made : List Attempt) : List Attempt × Except Error SwapResult :=
  if isRetryableError primaryError then
    match tryFallbacks network quote
      (getFallbackChainFor registry quote.chain quote.routerId) made with
    | (made, outcome) => (made, outcome.getD (.error primaryError))
  else (made, .error primaryError)

/-- The attempts that are made, in order, and what is returned.
Source: `swaps/operations.rs` -/
def executeSwapWithFallback (network : Network) (quote : Quote) :
    List Attempt × Except Error SwapResult :=
  if network.forceStopped then ([], .error (.other "Trading halted - Force stop is active"))
  else
    match network.registry with
    | .error e => ([], .error e)
    | .ok registry =>
      match getRouter registry quote.routerId with
      | none => ([], .error (.other ("Router " ++ quote.routerId ++ " not found")))
      | some primary =>
        if primary.enabled = false then
          ([], .error (.other ("Router " ++ quote.routerName ++
            " was disabled before its quote could be executed")))
        else
          let first := network.attempt 0 primary quote
          match first.result quote with
          | .ok result => ([first], .ok result)
          | .error primaryError =>
            if (unconfirmedSwapSignature primaryError).isSome then
              ([first], .error primaryError)
            else
              match retryQuote network primary quote primaryError with
              | none => fallBack network registry quote primaryError [first]
              | some retried =>
                let retry := network.attempt 1 primary retried
                match settledBy retried retry with
                | some outcome => ([first, retry], outcome)
                | none => fallBack network registry quote primaryError [first, retry]

/-! ## What the attempts are followed by -/

/-- The attempt failed, and no signature says that something is left to follow up. -/
def Abandoned (attempt : Attempt) : Prop :=
  ∃ quote e, attempt.result quote = .error e ∧ unconfirmedSwapSignature e = none

/-- Every attempt but the last one has been abandoned. -/
def OnlyAbandoned (attempts : List Attempt) : Prop :=
  ∀ attempt ∈ attempts.dropLast, Abandoned attempt

/-- **No transaction is handed over after one that lands.** -/
def Lasting (attempts : List Attempt) : Prop :=
  attempts.Pairwise fun earlier later =>
    later.handed = true → ¬ (earlier.handed = true ∧ earlier.lands = true)

section run

variable {network : Network} {quote : Quote} {made : List Attempt}

lemma abandoned_of_settledBy {attempt : Attempt} (h : settledBy quote attempt = none) :
    Abandoned attempt := by
  unfold settledBy at h
  split at h
  next => cases h
  next error hresult =>
    split at h
    next => cases h
    next hnone => exact ⟨quote, error, hresult, Option.not_isSome_iff_eq_none.mp hnone⟩

lemma OnlyAbandoned.append (h : ∀ attempt ∈ made, Abandoned attempt) (attempt : Attempt) :
    OnlyAbandoned (made ++ [attempt]) := by
  unfold OnlyAbandoned
  rwa [dropLast_concat]

lemma onlyAbandoned_singleton (attempt : Attempt) : OnlyAbandoned [attempt] :=
  fun _ h => (by cases h)

lemma OnlyAbandoned.of_forall (h : ∀ attempt ∈ made, Abandoned attempt) : OnlyAbandoned made :=
  fun attempt hmem => h attempt (mem_of_mem_dropLast hmem)

lemma tryFallbacks_onlyAbandoned {routers : List Router} (h : ∀ attempt ∈ made, Abandoned attempt) :
    OnlyAbandoned (tryFallbacks network quote routers made).1 := by
  induction routers generalizing made with
  | nil => exact OnlyAbandoned.of_forall h
  | cons router routers ih =>
    unfold tryFallbacks
    split
    next => exact ih h
    next fallbackQuote _ =>
      dsimp only
      split
      next => exact OnlyAbandoned.append h _
      next hsettled =>
        refine ih fun attempt hmem => ?_
        rcases mem_append.mp hmem with hmem | hmem
        · exact h attempt hmem
        · obtain rfl := mem_singleton.mp hmem
          exact abandoned_of_settledBy hsettled

variable {registry : List Router} {primaryError : Error}

lemma fallBack_onlyAbandoned (h : ∀ attempt ∈ made, Abandoned attempt) :
    OnlyAbandoned (fallBack network registry quote primaryError made).1 := by
  unfold fallBack
  split
  next => exact tryFallbacks_onlyAbandoned h
  next => exact OnlyAbandoned.of_forall h

lemma executeSwapWithFallback_given_up {primary : Router} (hrunning : network.forceStopped = false)
    (hregistry : network.registry = .ok registry)
    (hprimary : getRouter registry quote.routerId = some primary)
    (henabled : primary.enabled = true)
    (hresult : (network.attempt 0 primary quote).result quote = .error primaryError)
    (hunnamed : unconfirmedSwapSignature primaryError = none)
    (hretry : retryQuote network primary quote primaryError = none) :
    executeSwapWithFallback network quote =
      fallBack network registry quote primaryError [network.attempt 0 primary quote] := by
  unfold executeSwapWithFallback
  simp only [hrunning, hregistry, hprimary, henabled, hresult, hunnamed, hretry,
    Bool.false_eq_true, if_false, Option.isSome_none, Bool.true_eq_false]

variable (network quote) in
lemma executeSwapWithFallback_onlyAbandoned :
    OnlyAbandoned (executeSwapWithFallback network quote).1 := by
  have hnone : OnlyAbandoned [] := fun _ h => (by cases h)
  unfold executeSwapWithFallback
  split
  next => exact hnone
  next =>
    split
    next => exact hnone
    next registry _ =>
      split
      next => exact hnone
      next primary _ =>
        split
        next => exact hnone
        next =>
          dsimp only
          split
          next => exact onlyAbandoned_singleton _
          next primaryError hresult =>
            split
            next => exact onlyAbandoned_singleton _
            next hunnamed =>
              -- the first attempt has been given up, and what follows starts from it
              have hfirst : ∀ attempt ∈ [network.attempt 0 primary quote], Abandoned attempt := by
                intro attempt hmem
                obtain rfl := mem_singleton.mp hmem
                exact ⟨quote, primaryError, hresult, Option.not_isSome_iff_eq_none.mp hunnamed⟩
              split
              next => exact fallBack_onlyAbandoned hfirst
              next retried _ =>
                split
                next => exact OnlyAbandoned.append hfirst _
                next hsettled =>
                  refine fallBack_onlyAbandoned fun attempt hmem => ?_
                  rcases mem_cons.mp hmem with rfl | hmem
                  · exact hfirst _ mem_cons_self
                  · obtain rfl := mem_singleton.mp hmem
                    exact abandoned_of_settledBy hsettled

end run

lemma OnlyAbandoned.pairwise {attempts : List Attempt} (h : OnlyAbandoned attempts) :
    attempts.Pairwise fun earlier _ => Abandoned earlier := by
  induction attempts with
  | nil => exact List.Pairwise.nil
  | cons attempt rest ih =>
    refine List.Pairwise.cons (fun later hlater => h attempt ?_) (ih fun other hother => h other ?_)
    · rw [dropLast_cons_of_ne_nil (ne_nil_of_mem hlater)]
      exact mem_cons_self
    · cases rest with
      | nil => cases hother
      | cons next rest =>
        rw [dropLast_cons_of_ne_nil (cons_ne_nil _ _)]
        exact mem_cons_of_mem _ hother

/-- The signature of a transaction. -/
def lostSignature : String :=
  "5VERv8NMvzbJMEkV8xnrLkEaWRtSz9CosKDYjCJjBRnbJLgp8uirBgmQpjKhoR4tjF3ZpRzrFmBV6UjKdiSZkQUW"

/-- A transaction that lands, with the reply of the node lost. -/
def lostReply : AggregatorNetwork where
  built := .ok ()
  signature := lostSignature
  isHash := isTransactionHash_of_all (by decide) (by decide) (by decide)
  reply := .error (.rpc (.timeout "helius" "30s"))
  polls := []
  lands := true
  polled := fun _ h => (by cases h)

/-- A transaction that lands and is confirmed. -/
def confirmedReply : AggregatorNetwork where
  built := .ok ()
  signature := lostSignature
  isHash := isTransactionHash_of_all (by decide) (by decide) (by decide)
  reply := .ok ()
  polls := [.ok [some ⟨none, .confirmed⟩]]
  lands := true
  polled := by
    intro answer hmem
    obtain rfl := mem_singleton.mp hmem
    rintro ⟨status, hstatus, herr⟩
    obtain rfl := Option.some.inj hstatus
    cases herr

/-- One SOL for a token, quoted by the first router. -/
def tokenQuote : Quote where
  chain := "solana"
  routerId := "jupiter"
  routerName := "Jupiter"
  inputMint := solMint
  outputMint := "DezXAZ8z7PnrnRJjz3wXBoRgixCa6xjnB7YaB1pPB263"
  inputAmount := 1000000000
  outputAmount := 1000000
  slippageBps := 500
  walletAddress := "9WzDXwBbmkg8ZTbNMqUxvQRAyrZzDsGYdLVL9zYtAWWM"
  swapMode := "ExactIn"
  excludeDexes := none

/-- The reply to the first router's transaction is lost, and the second one quotes. -/
def lostNetwork : Network where
  forceStopped := false
  registry := .ok [⟨"jupiter", "Jupiter", true, 0, "solana"⟩, ⟨"raptor", "Raptor", true, 1, "solana"⟩]
  retryExcludingVenue := true
  venueLabel := fun _ => none
  quote := fun _ router _ => some { tokenQuote with routerId := router.id, routerName := router.name }
  attempt := fun n _ _ => if n = 0 then .aggregator lostReply else .aggregator confirmedReply

end Dripline.Swaps
