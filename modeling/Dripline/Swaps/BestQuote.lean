import Mathlib.Data.List.MinMax
import Dripline.Swaps.Fallback

/-!
# The best of the quotes

`swaps/operations.rs` and `swaps/error.rs`: every router of the chain is asked, what they offer is
checked, and the offer that leaves the wallet the most is taken. With no offer one of the failures
is reported for all.

A source without a file is in `swaps/operations.rs`, where a definition without a comment is the one
of its name.
-/

namespace Dripline.Swaps

open Dripline.Chain

/-! ## Failures -/

/-- Source: `swaps/error.rs` -/
inductive QuoteError
  | registryUnavailable (service message : String)
  | noRoutersEnabled (chain : String)
  | notTradable (router detail : String)
  | noRoute (router detail : String)
  | rateLimited (router : String) (retryAfter : Option ℕ)
  | timeout (router : String)
  | routerRejected (router detail : String)
  | unavailable (router detail : String)

namespace QuoteError

/-- Source: `swaps/error.rs` -/
def permanentTokenVerdict : QuoteError → Option String
  | .notTradable .. => some "NotTradable"
  | _ => none

/-- Source: `swaps/error.rs` -/
def isRouteFailure : QuoteError → Bool
  | .notTradable .. | .noRoute .. => true
  | _ => false

/-- The provider knows no market at all. Source: `swaps/operations.rs`, the first test of
`select_quote_failure` -/
def isNotTradable : QuoteError → Bool
  | .notTradable .. => true
  | _ => false

/-- Source: `swaps/operations.rs`, the search for a `NoRoute` in `select_quote_failure` -/
def isNoRoute : QuoteError → Bool
  | .noRoute .. => true
  | _ => false

/-- What a router says for itself; the two others are said for lack of routers. -/
def isOfRouter : QuoteError → Bool
  | .noRoutersEnabled .. | .registryUnavailable .. => false
  | _ => true

def specificity : QuoteError → ℕ
  | .routerRejected .. => 0
  | .rateLimited .. => 1
  | .timeout .. => 2
  | .unavailable .. => 3
  | .noRoute .. => 4
  | .notTradable .. => 5
  | .noRoutersEnabled .. => 6
  | .registryUnavailable .. => 7

end QuoteError

/-- There are errors, and all of them are like this. -/
def unanimous (all : QuoteError → Bool) (errors : List QuoteError) : Bool :=
  !errors.isEmpty && errors.all all

/-- Source: `swaps/operations.rs`, the fallback of `select_quote_failure` -/
def noAnswer : QuoteError := .unavailable "all" "no router returned a quote or an error"

/-- The one failure reported for all. -/
def selectQuoteFailure (errors : List QuoteError) : QuoteError :=
  if unanimous QuoteError.isNotTradable errors then errors.head?.getD noAnswer
  else if unanimous QuoteError.isRouteFailure errors then
    ((errors.find? QuoteError.isNoRoute).or errors.head?).getD noAnswer
  else (errors.argmin QuoteError.specificity).getD noAnswer

/-! ## Offers -/

/-- What a router offers; an impact that is no number is none, and is kept with its text. Source:
`swaps/types.rs`, `Quote` -/
structure OfferedQuote extends Quote where
  minimumOutputAmount : ℕ
  priceImpactPct : Option ℚ
  priceImpactText : String
  estimatedNetworkFeeLamports : Option ℕ

/-- A router, and what it says to the request, for itself. Source: `r.get_quote(&req)` -/
structure AskedRouter extends Router where
  answer : Except QuoteError OfferedQuote
  isOfRouter : ∀ error, answer = .error error → error.isOfRouter = true

/-- What an offer is turned down for, if anything. Source: `validate_quote` -/
def refusalOf (router : Router) (request : QuoteRequest) (quote : OfferedQuote) : Option String :=
  if quote.routerId ≠ router.id then
    some ("quote claims router '" ++ quote.routerId ++ "' but came from '" ++ router.id ++ "'")
  else if quote.chain ≠ request.chain then
    some ("quoted chain " ++ quote.chain ++ " but " ++ request.chain ++ " was requested")
  else if quote.inputMint ≠ request.inputMint ∨ quote.outputMint ≠ request.outputMint then
    some ("quoted " ++ quote.inputMint ++ " -> " ++ quote.outputMint ++ " but " ++
      request.inputMint ++ " -> " ++ request.outputMint ++ " was requested")
  else if quote.walletAddress ≠ request.walletAddress then
    some "quote is addressed to a different wallet"
  else if quote.inputAmount ≠ request.inputAmount then
    some ("quote spends " ++ toString quote.inputAmount ++ " but " ++
      toString request.inputAmount ++ " was requested")
  else if quote.swapMode ≠ request.swapMode then
    some ("quoted " ++ quote.swapMode ++ " but " ++ request.swapMode ++ " was requested")
  else if quote.outputAmount = 0 then
    some ("zero-output quote for " ++ quote.inputMint ++ " -> " ++ quote.outputMint)
  else if quote.minimumOutputAmount = 0 then some "quote guarantees no minimum output"
  else if quote.outputAmount < quote.minimumOutputAmount then
    some ("guaranteed minimum " ++ toString quote.minimumOutputAmount ++
      " exceeds the expected output " ++ toString quote.outputAmount)
  else
    match quote.priceImpactPct with
    | none => some ("unusable price impact " ++ quote.priceImpactText)
    | some impact =>
      if impact < 0 then some ("unusable price impact " ++ quote.priceImpactText) else none

def validateQuote (router : Router) (request : QuoteRequest) (quote : OfferedQuote) :
    Except QuoteError OfferedQuote :=
  match refusalOf router request quote with
  | some detail => .error (.routerRejected router.name detail)
  | none => .ok quote

def outputAfterNetworkFee (quote : OfferedQuote) : ℕ :=
  match quote.estimatedNetworkFeeLamports with
  | none => quote.outputAmount
  | some fee =>
    if isNativeAsset quote.outputMint then quote.outputAmount - fee
    else if isNativeAsset quote.inputMint && decide (0 < quote.inputAmount) then
      quote.outputAmount - min (quote.outputAmount * fee / quote.inputAmount) (2 ^ 64 - 1)
    else quote.outputAmount

/-- The first offer comes before the second: it leaves less, or the same at a higher priority
number. Source: `swaps/operations.rs`, the comparison in `best_quote_on` -/
def comesBefore (left right : ℕ × OfferedQuote) : Bool :=
  outputAfterNetworkFee left.2 < outputAfterNetworkFee right.2 ||
    outputAfterNetworkFee left.2 == outputAfterNetworkFee right.2 && right.1 ≤ left.1

/-- The last of the best offers. Source: `max_by` in `best_quote_on` -/
def bestOf (first : ℕ × OfferedQuote) (quotes : List (ℕ × OfferedQuote)) : ℕ × OfferedQuote :=
  quotes.foldl (fun best quote => if comesBefore best quote then quote else best) first

/-! ## The comparison -/

/-- What a router comes to, its offer checked. Source: `futures` in `best_quote_on` -/
def AskedRouter.result (router : AskedRouter) (request : QuoteRequest) :
    Except QuoteError OfferedQuote :=
  router.answer.bind (validateQuote router.toRouter request)

/-- Source: `swaps/registry.rs` -/
def enabledRoutersFor (registry : List AskedRouter) (chain : String) : List AskedRouter :=
  registry.filter fun router => router.enabled && router.chain == chain

/-- What was offered. -/
def offers (results : List (Except QuoteError OfferedQuote)) : List OfferedQuote :=
  results.filterMap fun result => match result with
    | .ok quote => some quote
    | .error _ => none

/-- What failed. -/
def failures (results : List (Except QuoteError OfferedQuote)) : List QuoteError :=
  results.filterMap fun result => match result with
    | .ok _ => none
    | .error error => some error

def bestQuoteOn (registry : List AskedRouter) (request : QuoteRequest) :
    Except QuoteError OfferedQuote :=
  let enabled := enabledRoutersFor registry request.chain
  if enabled.isEmpty then .error (.noRoutersEnabled request.chain)
  else
    let results := enabled.map (·.result request)
    let priced := (offers results).map fun quote =>
      (((enabled.find? (·.id == quote.routerId)).map (·.priority)).getD 255, quote)
    match priced with
    | [] => .error (selectQuoteFailure (failures results))
    | first :: others => .ok (bestOf first others).2

def tryGetBestQuote (registry : Option (List AskedRouter)) (request : QuoteRequest) :
    Except QuoteError OfferedQuote :=
  match registry with
  | none =>
    .error (.registryUnavailable "swaps.registry" "router factory has not been registered")
  | some registry => bestQuoteOn registry request

/-! ## Verdicts about the token -/

namespace QuoteError

variable {error : QuoteError}

lemma isRouteFailure_of_isNotTradable (h : error.isNotTradable = true) :
    error.isRouteFailure = true := by
  cases error with
  | notTradable router detail => rfl
  | _ => cases h

lemma isNotTradable_of_not_isNoRoute (h : error.isRouteFailure = true)
    (hroute : error.isNoRoute = false) : error.isNotTradable = true := by
  cases error with
  | notTradable router detail => rfl
  | noRoute router detail => cases hroute
  | _ => cases h

lemma isRouteFailure_iff (h : error.isOfRouter = true) :
    error.isRouteFailure = true ↔ 4 ≤ error.specificity := by
  cases error <;> simp_all [isOfRouter, isRouteFailure, specificity]

end QuoteError

section Select

variable {errors : List QuoteError}

lemma unanimous_iff {all : QuoteError → Bool} :
    unanimous all errors = true ↔ errors ≠ [] ∧ ∀ error ∈ errors, all error = true := by
  simp [unanimous]

lemma unanimous_of_isRouteFailure (hown : ∀ error ∈ errors, error.isOfRouter = true)
    (hverdict : (selectQuoteFailure errors).isRouteFailure = true) :
    unanimous QuoteError.isRouteFailure errors = true := by
  unfold selectQuoteFailure at hverdict
  split at hverdict
  case isTrue hall =>
    obtain ⟨hsome, hall⟩ := unanimous_iff.mp hall
    exact unanimous_iff.mpr
      ⟨hsome, fun error herror => QuoteError.isRouteFailure_of_isNotTradable (hall error herror)⟩
  case isFalse =>
    split at hverdict
    case isTrue hall => exact hall
    case isFalse =>
      -- the least specific of the failures is a verdict, so all of them are
      cases hmin : errors.argmin QuoteError.specificity with
      | none =>
        rw [hmin] at hverdict
        cases hverdict
      | some least =>
        rw [hmin, Option.getD_some] at hverdict
        have hleast := List.argmin_mem hmin
        have hfour := (QuoteError.isRouteFailure_iff (hown least hleast)).mp hverdict
        refine unanimous_iff.mpr ⟨List.ne_nil_of_mem hleast, fun error herror => ?_⟩
        rw [QuoteError.isRouteFailure_iff (hown error herror)]
        exact hfour.trans (List.le_of_mem_argmin herror hmin)

lemma unanimous_of_isNotTradable (hown : ∀ error ∈ errors, error.isOfRouter = true)
    (hverdict : (selectQuoteFailure errors).isNotTradable = true) :
    unanimous QuoteError.isNotTradable errors = true := by
  have hroute := unanimous_of_isRouteFailure hown
    (QuoteError.isRouteFailure_of_isNotTradable hverdict)
  unfold selectQuoteFailure at hverdict
  split at hverdict
  case isTrue hall => exact hall
  case isFalse =>
    obtain ⟨hsome, hall⟩ := unanimous_iff.mp hroute
    cases hfind : errors.find? QuoteError.isNoRoute with
    | some found =>
      rw [hfind] at hverdict
      have hfound := List.find?_some hfind
      simp only [Option.some_or, Option.getD_some] at hverdict
      cases found with
      | noRoute router detail => cases hverdict
      | _ => cases hfound
    | none =>
      refine unanimous_iff.mpr ⟨hsome, fun error herror => ?_⟩
      have hnot := List.find?_eq_none.mp hfind error herror
      exact QuoteError.isNotTradable_of_not_isNoRoute (hall error herror) (by simpa using hnot)

end Select

section Ask

variable {registry : Option (List AskedRouter)} {request : QuoteRequest} {error : QuoteError}

lemma AskedRouter.isOfRouter_result (router : AskedRouter)
    (h : router.result request = .error error) : error.isOfRouter = true := by
  unfold result at h
  cases hanswer : router.answer with
  | error own =>
    rw [hanswer] at h
    cases h
    exact router.isOfRouter _ hanswer
  | ok quote =>
    rw [hanswer] at h
    simp only [Except.bind, validateQuote] at h
    split at h <;> cases h
    rfl

lemma AskedRouter.answer_of_isRouteFailure {router : AskedRouter}
    (h : router.result request = .error error) (hverdict : error.isRouteFailure = true) :
    router.answer = .error error := by
  unfold result at h
  cases hanswer : router.answer with
  | error own =>
    rw [hanswer] at h
    cases h
    rfl
  | ok quote =>
    rw [hanswer] at h
    simp only [Except.bind, validateQuote] at h
    split at h <;> cases h
    cases hverdict

lemma exists_failures (h : tryGetBestQuote registry request = .error error)
    (hverdict : error.isRouteFailure = true) : ∃ routers, registry = some routers ∧
      error = selectQuoteFailure
        (failures ((enabledRoutersFor routers request.chain).map (·.result request))) ∧
      ∀ router ∈ enabledRoutersFor routers request.chain,
        ∃ own, router.result request = .error own := by
  cases registry with
  | none =>
    cases h
    cases hverdict
  | some routers =>
    refine ⟨routers, rfl, ?_⟩
    simp only [tryGetBestQuote, bestQuoteOn] at h
    split at h
    case isTrue =>
      cases h
      cases hverdict
    case isFalse =>
      split at h
      case h_2 => cases h
      case h_1 hnone =>
        cases h
        refine ⟨rfl, fun router hrouter => ?_⟩
        cases hresult : router.result request with
        | error own => exact ⟨own, rfl⟩
        | ok quote =>
          have hoffer : quote ∈ offers
              ((enabledRoutersFor routers request.chain).map (·.result request)) :=
            List.mem_filterMap.mpr ⟨_, List.mem_map.mpr ⟨router, hrouter, hresult⟩, rfl⟩
          rw [List.map_eq_nil_iff.mp hnone] at hoffer
          cases hoffer

/-- The routers that were asked each say something of this kind. -/
def AllSay (verdict : QuoteError → Bool) (registry : Option (List AskedRouter))
    (request : QuoteRequest) : Prop :=
  ∃ routers, registry = some routers ∧ enabledRoutersFor routers request.chain ≠ [] ∧
    ∀ router ∈ enabledRoutersFor routers request.chain,
      ∃ own, router.answer = .error own ∧ verdict own = true

variable {routers : List AskedRouter}

lemma allSay_of_unanimous {verdict : QuoteError → Bool}
    (hfailed : ∀ router ∈ enabledRoutersFor routers request.chain, ∃ own,
      router.result request = .error own)
    (hverdict : ∀ own : QuoteError, verdict own = true → own.isRouteFailure = true)
    (hall : unanimous verdict (failures ((enabledRoutersFor routers request.chain).map
      (·.result request))) = true) :
    AllSay verdict (some routers) request := by
  obtain ⟨hsome, hall⟩ := unanimous_iff.mp hall
  refine ⟨routers, rfl, fun hnone => hsome (by rw [hnone]; rfl), fun router hrouter => ?_⟩
  obtain ⟨own, hown⟩ := hfailed router hrouter
  have hsaid := hall own (List.mem_filterMap.mpr ⟨_, List.mem_map.mpr ⟨router, hrouter, hown⟩, rfl⟩)
  exact ⟨own, AskedRouter.answer_of_isRouteFailure hown (hverdict own hsaid), hsaid⟩

lemma isOfRouter_of_mem_failures {own : QuoteError}
    (h : own ∈ failures (routers.map (·.result request))) : own.isOfRouter = true := by
  obtain ⟨result, hresult, hown⟩ := List.mem_filterMap.mp h
  obtain ⟨router, -, rfl⟩ := List.mem_map.mp hresult
  cases hfailed : router.result request with
  | ok quote =>
    rw [hfailed] at hown
    cases hown
  | error failed =>
    rw [hfailed] at hown
    obtain rfl := Option.some.inj hown
    exact router.isOfRouter_result hfailed

lemma isRouteFailure_tryGetBestQuote (h : tryGetBestQuote registry request = .error error)
    (hverdict : error.isRouteFailure = true) :
    AllSay QuoteError.isRouteFailure registry request := by
  obtain ⟨routers, rfl, rfl, hfailed⟩ := exists_failures h hverdict
  exact allSay_of_unanimous hfailed (fun _ => id)
    (unanimous_of_isRouteFailure (fun _ => isOfRouter_of_mem_failures) hverdict)

lemma isNotTradable_tryGetBestQuote (h : tryGetBestQuote registry request = .error error)
    (hverdict : error.isNotTradable = true) : AllSay QuoteError.isNotTradable registry request := by
  obtain ⟨routers, rfl, rfl, hfailed⟩ :=
    exists_failures h (QuoteError.isRouteFailure_of_isNotTradable hverdict)
  exact allSay_of_unanimous hfailed (fun _ => QuoteError.isRouteFailure_of_isNotTradable)
    (unanimous_of_isNotTradable (fun _ => isOfRouter_of_mem_failures) hverdict)

end Ask

/-! ## The quote that is taken -/

/-- A router offers a quote that is not turned down. -/
def AskedRouter.Offers (router : AskedRouter) (request : QuoteRequest) (quote : OfferedQuote) : Prop :=
  router.answer = .ok quote ∧ refusalOf router.toRouter request quote = none

/-- The priority that a quote is compared at. Source: `best_quote_on` -/
def priorityOf (routers : List AskedRouter) (quote : OfferedQuote) : ℕ :=
  ((routers.find? (·.id == quote.routerId)).map (·.priority)).getD 255

lemma AskedRouter.offers_iff {router : AskedRouter} {request : QuoteRequest} {quote : OfferedQuote} :
    router.Offers request quote ↔ router.result request = .ok quote := by
  unfold AskedRouter.Offers AskedRouter.result validateQuote
  cases router.answer with
  | error error => simp [Except.bind]
  | ok own => cases h : refusalOf router.toRouter request own <;> simp [Except.bind, h] <;> grind

lemma mem_offers {routers : List AskedRouter} {request : QuoteRequest} {quote : OfferedQuote} :
    quote ∈ offers (routers.map (·.result request)) ↔
      ∃ router ∈ routers, router.Offers request quote := by
  simp only [offers, List.mem_filterMap, List.mem_map, exists_exists_and_eq_and,
    AskedRouter.offers_iff]
  refine exists_congr fun router => and_congr_right fun _ => ?_
  cases router.result request <;> simp

lemma comesBefore_iff {left right : ℕ × OfferedQuote} : comesBefore left right = true ↔
    outputAfterNetworkFee left.2 < outputAfterNetworkFee right.2 ∨
      outputAfterNetworkFee left.2 = outputAfterNetworkFee right.2 ∧ right.1 ≤ left.1 := by
  simp [comesBefore]

lemma bestOf_spec (first : ℕ × OfferedQuote) (quotes : List (ℕ × OfferedQuote)) :
    bestOf first quotes ∈ first :: quotes ∧
      ∀ quote ∈ first :: quotes, comesBefore quote (bestOf first quotes) = true := by
  induction quotes generalizing first with
  | nil => simp [bestOf, comesBefore_iff]
  | cons next quotes ih =>
    obtain ⟨hmem, hbest⟩ := ih (if comesBefore first next then next else first)
    change bestOf (if comesBefore first next then next else first) quotes ∈ _ ∧
      ∀ quote ∈ first :: next :: quotes, comesBefore quote
        (bestOf (if comesBefore first next then next else first) quotes) = true
    have hhead := hbest _ List.mem_cons_self
    generalize bestOf (if comesBefore first next then next else first) quotes = best at *
    refine ⟨?_, ?_⟩
    · split at hmem <;> simp only [List.mem_cons] at hmem ⊢ <;> tauto
    · have hboth : comesBefore first best = true ∧ comesBefore next best = true := by
        split at hhead <;> rename_i hfirst <;> simp only [comesBefore_iff] at * <;> omega
      intro quote hquote
      rcases List.mem_cons.mp hquote with rfl | hquote
      · exact hboth.1
      · rcases List.mem_cons.mp hquote with rfl | hquote
        · exact hboth.2
        · exact hbest quote (List.mem_cons_of_mem _ hquote)

/-- **The best quote**: of all that enabled routers offer and that are not turned down, it leaves
the most, and among those that leave as much it has the lowest priority number; there is none only
where nothing is offered. -/
theorem bestQuoteOn_spec (registry : List AskedRouter) (request : QuoteRequest) :
    (∀ quote, bestQuoteOn registry request = .ok quote →
      (∃ router ∈ enabledRoutersFor registry request.chain, router.Offers request quote) ∧
        ∀ router ∈ enabledRoutersFor registry request.chain, ∀ other, router.Offers request other →
          outputAfterNetworkFee other < outputAfterNetworkFee quote ∨
            outputAfterNetworkFee other = outputAfterNetworkFee quote ∧
              priorityOf (enabledRoutersFor registry request.chain) quote ≤
                priorityOf (enabledRoutersFor registry request.chain) other) ∧
    ((∃ error, bestQuoteOn registry request = .error error) ↔
      ∀ router ∈ enabledRoutersFor registry request.chain, ∀ quote, ¬router.Offers request quote) := by
  simp only [bestQuoteOn]
  generalize enabledRoutersFor registry request.chain = routers
  have hoffers (quote : OfferedQuote) := @mem_offers routers request quote
  split
  · rename_i hempty
    simp [List.isEmpty_iff.mp hempty]
  split
  · rename_i hnone
    rw [List.map_eq_nil_iff] at hnone
    simp only [hnone, List.not_mem_nil, false_iff, not_exists, not_and] at hoffers
    simpa using fun router hrouter quote => hoffers quote router hrouter
  · rename_i first others hpriced
    obtain ⟨hmem, hbest⟩ := bestOf_spec first others
    rw [← hpriced] at hmem hbest
    obtain ⟨best, hoffered, heq⟩ := List.mem_map.mp hmem
    refine ⟨?_, ?_⟩
    · intro quote h
      obtain rfl := Except.ok.inj h
      rw [← heq] at hbest ⊢
      refine ⟨(hoffers best).mp hoffered, fun router hrouter other hother => ?_⟩
      exact comesBefore_iff.mp (hbest _ (List.mem_map_of_mem
        ((hoffers other).mpr ⟨_, hrouter, hother⟩)))
    · obtain ⟨router, hrouter, hoffer⟩ := (hoffers best).mp hoffered
      exact iff_of_false (fun ⟨_, h⟩ => by cases h) fun h => h router hrouter best hoffer

end Dripline.Swaps
