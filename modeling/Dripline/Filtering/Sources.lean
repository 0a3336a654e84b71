import Dripline.Filtering.Bounds
import Dripline.Filtering.Text

/-!
# Meta, on-chain and market filters

`filtering/sources`. A source answers with its first rejection, or none.

A source without a file is in `sources/dexscreener.rs` or the file of its section, where a
definition without a comment is the one of its name.
-/

namespace Dripline.Filtering

open Dripline.Strategies (F64)

/-- What is read besides the token: other services, and the time. -/
structure Surroundings where
  isNativeAsset : String → Bool
  getDecimals : String → Option ℕ
  isTokenInCooldown : String → Bool
  isBlockedAuthority : String → Bool
  now : ℤ

/-- Source: `tokens/decimals.rs` -/
def maxDecimals : ℕ := 18

/-- Source: `tokens/decimals.rs`, `is_valid` -/
def decimalsAreValid (decimals : ℕ) : Bool := decide (0 < decimals ∧ decimals ≤ maxDecimals)

/-- A flag that is set only where the other one is. -/
def Implies (loose strict : Bool) : Prop := loose = true → strict = true

/-! ## Meta, `sources/meta.rs` -/

namespace Meta

def hasDecimals (env : Surroundings) (token : Token) : Bool :=
  env.isNativeAsset token.mint || token.decimals.any decimalsAreValid ||
    (env.getDecimals token.mint).isSome

/-- Nanoseconds in a minute. -/
def minute : ℤ := 60 * 10 ^ 9

def isTooNew (env : Surroundings) (token : Token) (config : FilteringConfig) : Prop :=
  max ((env.now - token.firstDiscoveredAt).tdiv minute) 0 < config.minTokenAgeMinutes

instance decidableIsTooNew (env : Surroundings) (token : Token) (config : FilteringConfig) :
    Decidable (isTooNew env token config) := inferInstanceAs (Decidable (_ < _))

def evaluate (env : Surroundings) (token : Token) (config : FilteringConfig) :
    Option FilterRejectionReason :=
  firstOf [
    if hasDecimals env token = false then some .noDecimalsInDatabase else none,
    if config.ageEnabled ∧ isTooNew env token config then some .tokenTooNew else none,
    if config.cooldownEnabled ∧ config.checkCooldown ∧ env.isTokenInCooldown token.mint then
      some .cooldownFiltered
    else none]

end Meta

/-! ## On-chain, `sources/onchain.rs` -/

namespace OnChain

def isNumericOnlySymbol (symbol : String) : Bool :=
  meaningfulSymbol symbol ≠ "" && (meaningfulSymbol symbol).toList.all Char.isDigit

def isEmptyOrWhitespace (symbol : String) : Bool := meaningfulSymbol symbol == ""

/-- One character, which is no letter. Source: `sources/onchain.rs`, `evaluate` -/
def isSuspiciousSymbol (symbol : String) : Bool :=
  match (meaningfulSymbol symbol).toList with
  | [c] => !c.isAlpha
  | _ => false

def computeRiskScore (token : Token) : ℕ :=
  let name := meaningfulSymbol token.name
  let symbol := meaningfulSymbol token.symbol
  let score := (if isNumericOnlySymbol token.symbol then 30 else 0) +
    (if isEmptyOrWhitespace token.symbol then 25 else 0) +
    (if token.freezeAuthority.isSome then 10 else 0) +
    (if name ≠ "" ∧ symbol ≠ "" ∧ eqIgnoreAsciiCase name symbol then 15 else 0)
  -- immutable metadata only adds to another signal
  min (score + if token.isMutable = some false ∧ 0 < score then 10 else 0) 100

def evaluate (env : Surroundings) (token : Token) (config : OnChainFilters) :
    Option FilterRejectionReason :=
  if config.enabled then
    firstOf [
      if config.rejectNumericSymbols ∧ isNumericOnlySymbol token.symbol then
        some .onChainNumericSymbol
      else none,
      if config.rejectEmptySymbols ∧ isEmptyOrWhitespace token.symbol then
        some .onChainEmptySymbol
      else none,
      if config.rejectSingleCharSymbols ∧ isSuspiciousSymbol token.symbol then
        some .onChainSuspiciousSymbol
      else none,
      if config.rejectKnownScamAuthorities ∧ (token.freezeAuthority.any env.isBlockedAuthority ∨
          token.updateAuthority.any env.isBlockedAuthority ∨
            token.mintAuthority.any env.isBlockedAuthority) then
        some .onChainKnownScamAuthority
      else none,
      if config.rejectImmutableWithFreeze ∧ token.isMutable = some false ∧
          token.freezeAuthority.isSome then
        some .onChainImmutableWithFreeze
      else none,
      if config.combinedRiskEnabled ∧ config.maxCombinedRiskScore ≤ computeRiskScore token then
        some .onChainHighRiskScore
      else none]
  else none

end OnChain

/-- The same on-chain rules are on, with thresholds and flags that reject no more. -/
structure OnChainFilters.NoStricter (loose strict : OnChainFilters) : Prop where
  enabled : loose.enabled = strict.enabled
  combinedRiskEnabled : loose.combinedRiskEnabled = strict.combinedRiskEnabled
  rejectNumericSymbols : Implies loose.rejectNumericSymbols strict.rejectNumericSymbols
  rejectEmptySymbols : Implies loose.rejectEmptySymbols strict.rejectEmptySymbols
  rejectSingleCharSymbols : Implies loose.rejectSingleCharSymbols strict.rejectSingleCharSymbols
  rejectKnownScamAuthorities :
    Implies loose.rejectKnownScamAuthorities strict.rejectKnownScamAuthorities
  rejectImmutableWithFreeze :
    Implies loose.rejectImmutableWithFreeze strict.rejectImmutableWithFreeze
  maxCombinedRiskScore : strict.maxCombinedRiskScore ≤ loose.maxCombinedRiskScore

lemma OnChain.looser_evaluate {loose strict : OnChainFilters} (h : loose.NoStricter strict)
    (env : Surroundings) (token : Token) :
    Looser (OnChain.evaluate env token loose) (OnChain.evaluate env token strict) := by
  apply looser_if
  · intro henabled
    rwa [← h.enabled]
  · intro _
    apply looser_firstOf
    refine .cons (looser_reject (And.imp_left h.rejectNumericSymbols) _) ?_
    refine .cons (looser_reject (And.imp_left h.rejectEmptySymbols) _) ?_
    refine .cons (looser_reject (And.imp_left h.rejectSingleCharSymbols) _) ?_
    refine .cons (looser_reject (And.imp_left h.rejectKnownScamAuthorities) _) ?_
    refine .cons (looser_reject (And.imp_left h.rejectImmutableWithFreeze) _) ?_
    refine .cons (looser_reject ?_ _) .nil
    rintro ⟨hon, hscore⟩
    exact ⟨h.combinedRiskEnabled ▸ hon, h.maxCombinedRiskScore.trans hscore⟩

/-! ## DexScreener -/

namespace DexScreener

variable (token : Token) (config : DexScreenerFilters)

def checkTokenInfo : Option FilterRejectionReason :=
  if config.tokenInfoEnabled then
    firstOf [
      if config.requireNameAndSymbol ∧ trim token.name = "" then some .dexScreenerEmptyName
      else none,
      if config.requireNameAndSymbol ∧ trim token.symbol = "" then some .dexScreenerEmptySymbol
      else none,
      if config.requireLogoUrl ∧ token.imageUrl.all (trim · = "") then
        some .dexScreenerEmptyLogoUrl
      else none,
      if config.requireWebsiteUrl ∧ ¬token.websites.any (trim · ≠ "") then
        some .dexScreenerEmptyWebsiteUrl
      else none]
  else none

def enforceTransactionFloor (total : Option ℤ) (minimum : ℤ)
    (tooLowReason : FilterRejectionReason) : Option FilterRejectionReason :=
  if 0 < minimum ∧ total.all (· < minimum) then some tooLowReason else none

def checkTransactionActivity : Option FilterRejectionReason :=
  if config.transactionsEnabled ∧ token.dataSource = .dexScreener then
    firstOf [
      enforceTransactionFloor token.txns5mTotal config.minTransactions5min
        .dexScreenerInsufficientTransactions5Min,
      enforceTransactionFloor token.txns1hTotal config.minTransactions1h
        .dexScreenerInsufficientTransactions1H]
  else none

def checkLiquidity : Option FilterRejectionReason :=
  if config.liquidityEnabled then
    firstOf [
      if (reading token.liquidityUsd).any (·.le 0) then some .dexScreenerZeroLiquidity else none,
      enforceRange token.liquidityUsd config.minLiquidityUsd (some config.maxLiquidityUsd)
        .dexScreenerInsufficientLiquidity .dexScreenerLiquidityTooHigh]
  else none

def checkMarketCap : Option FilterRejectionReason :=
  if config.marketCapEnabled then
    enforceRange token.marketCap config.minMarketCapUsd (some config.maxMarketCapUsd)
      .dexScreenerMarketCapTooLow .dexScreenerMarketCapTooHigh
  else none

def checkFdv : Option FilterRejectionReason :=
  if config.fdvEnabled then
    enforceRange token.fdv config.minFdvUsd (some config.maxFdvUsd)
      .dexScreenerFdvTooLow .dexScreenerFdvTooHigh
  else none

def checkVolume : Option FilterRejectionReason :=
  if config.volumeEnabled then
    firstOf [
      enforceFloor token.volumeM5 config.minVolume5m
        .dexScreenerVolume5mTooLow .dexScreenerVolume5mMissing,
      enforceFloor token.volumeH1 config.minVolume1h
        .dexScreenerVolume1hTooLow .dexScreenerVolume1hMissing,
      enforceFloor token.volumeH6 config.minVolume6h
        .dexScreenerVolume6hTooLow .dexScreenerVolume6hMissing,
      enforceFloor token.volumeH24 config.minVolume24h
        .dexScreenerVolumeTooLow .dexScreenerVolumeMissing]
  else none

def checkPriceChange : Option FilterRejectionReason :=
  if config.priceChangeEnabled then
    firstOf [
      enforceRange token.priceChangeM5 config.minPriceChangeM5 (some config.maxPriceChangeM5)
        .dexScreenerPriceChange5mTooLow .dexScreenerPriceChange5mTooHigh,
      enforceRange token.priceChangeH1 config.minPriceChangeH1 (some config.maxPriceChangeH1)
        .dexScreenerPriceChangeTooLow .dexScreenerPriceChangeTooHigh,
      enforceRange token.priceChangeH6 config.minPriceChangeH6 (some config.maxPriceChangeH6)
        .dexScreenerPriceChange6hTooLow .dexScreenerPriceChange6hTooHigh,
      enforceRange token.priceChangeH24 config.minPriceChangeH24 (some config.maxPriceChangeH24)
        .dexScreenerPriceChange24hTooLow .dexScreenerPriceChange24hTooHigh]
  else none

def evaluate : Option FilterRejectionReason :=
  if config.enabled then
    firstOf [checkTokenInfo token config, checkTransactionActivity token config,
      checkLiquidity token config, checkMarketCap token config, checkFdv token config,
      checkVolume token config, checkPriceChange token config]
  else none

end DexScreener

/-- The same DexScreener rules are on, with thresholds and flags that reject no more. -/
structure DexScreenerFilters.NoStricter (loose strict : DexScreenerFilters) : Prop where
  enabled : loose.enabled = strict.enabled
  tokenInfoEnabled : loose.tokenInfoEnabled = strict.tokenInfoEnabled
  requireNameAndSymbol : Implies loose.requireNameAndSymbol strict.requireNameAndSymbol
  requireLogoUrl : Implies loose.requireLogoUrl strict.requireLogoUrl
  requireWebsiteUrl : Implies loose.requireWebsiteUrl strict.requireWebsiteUrl
  liquidityEnabled : loose.liquidityEnabled = strict.liquidityEnabled
  minLiquidityUsd : NoHigher loose.minLiquidityUsd strict.minLiquidityUsd
  maxLiquidityUsd : NoHigher strict.maxLiquidityUsd loose.maxLiquidityUsd
  marketCapEnabled : loose.marketCapEnabled = strict.marketCapEnabled
  minMarketCapUsd : NoHigher loose.minMarketCapUsd strict.minMarketCapUsd
  maxMarketCapUsd : NoHigher strict.maxMarketCapUsd loose.maxMarketCapUsd
  fdvEnabled : loose.fdvEnabled = strict.fdvEnabled
  minFdvUsd : NoHigher loose.minFdvUsd strict.minFdvUsd
  maxFdvUsd : NoHigher strict.maxFdvUsd loose.maxFdvUsd
  transactionsEnabled : loose.transactionsEnabled = strict.transactionsEnabled
  minTransactions5min : loose.minTransactions5min ≤ strict.minTransactions5min
  minTransactions1h : loose.minTransactions1h ≤ strict.minTransactions1h
  volumeEnabled : loose.volumeEnabled = strict.volumeEnabled
  minVolume5m : NoHigher loose.minVolume5m strict.minVolume5m
  minVolume1h : NoHigher loose.minVolume1h strict.minVolume1h
  minVolume6h : NoHigher loose.minVolume6h strict.minVolume6h
  minVolume24h : NoHigher loose.minVolume24h strict.minVolume24h
  priceChangeEnabled : loose.priceChangeEnabled = strict.priceChangeEnabled
  minPriceChangeM5 : NoHigher loose.minPriceChangeM5 strict.minPriceChangeM5
  maxPriceChangeM5 : NoHigher strict.maxPriceChangeM5 loose.maxPriceChangeM5
  minPriceChangeH1 : NoHigher loose.minPriceChangeH1 strict.minPriceChangeH1
  maxPriceChangeH1 : NoHigher strict.maxPriceChangeH1 loose.maxPriceChangeH1
  minPriceChangeH6 : NoHigher loose.minPriceChangeH6 strict.minPriceChangeH6
  maxPriceChangeH6 : NoHigher strict.maxPriceChangeH6 loose.maxPriceChangeH6
  minPriceChangeH24 : NoHigher loose.minPriceChangeH24 strict.minPriceChangeH24
  maxPriceChangeH24 : NoHigher strict.maxPriceChangeH24 loose.maxPriceChangeH24

lemma ceilingNoLower_some {a b : F64} (h : NoHigher b a) : CeilingNoLower (some a) (some b) := by
  rintro c hc
  obtain rfl := Option.some.inj hc
  exact ⟨b, rfl, h⟩

lemma DexScreener.looser_transactionFloor {minimum minimum' : ℤ} (h : minimum ≤ minimum')
    (total : Option ℤ) (reason : FilterRejectionReason) :
    Looser (DexScreener.enforceTransactionFloor total minimum reason)
      (DexScreener.enforceTransactionFloor total minimum' reason) := by
  apply looser_reject
  rintro ⟨hpos, hbelow⟩
  refine ⟨hpos.trans_le h, ?_⟩
  cases total with
  | none => rfl
  | some count =>
    simp only [Option.all_some, decide_eq_true_eq] at hbelow ⊢
    exact hbelow.trans_le h

lemma DexScreener.looser_evaluate {loose strict : DexScreenerFilters}
    (h : loose.NoStricter strict) (token : Token) :
    Looser (DexScreener.evaluate token loose) (DexScreener.evaluate token strict) := by
  have hinfo : Looser (DexScreener.checkTokenInfo token loose)
      (DexScreener.checkTokenInfo token strict) := by
    refine looser_if (fun hon => h.tokenInfoEnabled ▸ hon) fun _ => looser_firstOf ?_
    refine .cons (looser_reject (And.imp_left h.requireNameAndSymbol) _) ?_
    refine .cons (looser_reject (And.imp_left h.requireNameAndSymbol) _) ?_
    refine .cons (looser_reject (And.imp_left h.requireLogoUrl) _) ?_
    exact .cons (looser_reject (And.imp_left h.requireWebsiteUrl) _) .nil
  have hactivity : Looser (DexScreener.checkTransactionActivity token loose)
      (DexScreener.checkTransactionActivity token strict) := by
    refine looser_if (And.imp_left fun hon => h.transactionsEnabled ▸ hon) fun _ => looser_firstOf ?_
    refine .cons (DexScreener.looser_transactionFloor h.minTransactions5min _ _) ?_
    exact .cons (DexScreener.looser_transactionFloor h.minTransactions1h _ _) .nil
  have hliquidity : Looser (DexScreener.checkLiquidity token loose)
      (DexScreener.checkLiquidity token strict) := by
    refine looser_if (fun hon => h.liquidityEnabled ▸ hon) fun _ => looser_firstOf ?_
    refine .cons (.refl _) ?_
    exact .cons (looser_range h.minLiquidityUsd (ceilingNoLower_some h.maxLiquidityUsd) _ _ _) .nil
  have hcap : Looser (DexScreener.checkMarketCap token loose)
      (DexScreener.checkMarketCap token strict) :=
    looser_if (fun hon => h.marketCapEnabled ▸ hon) fun _ =>
      looser_range h.minMarketCapUsd (ceilingNoLower_some h.maxMarketCapUsd) _ _ _
  have hfdv : Looser (DexScreener.checkFdv token loose) (DexScreener.checkFdv token strict) :=
    looser_if (fun hon => h.fdvEnabled ▸ hon) fun _ =>
      looser_range h.minFdvUsd (ceilingNoLower_some h.maxFdvUsd) _ _ _
  have hvolume : Looser (DexScreener.checkVolume token loose)
      (DexScreener.checkVolume token strict) := by
    refine looser_if (fun hon => h.volumeEnabled ▸ hon) fun _ => looser_firstOf ?_
    refine .cons (looser_floor h.minVolume5m _ _ _) ?_
    refine .cons (looser_floor h.minVolume1h _ _ _) ?_
    refine .cons (looser_floor h.minVolume6h _ _ _) ?_
    exact .cons (looser_floor h.minVolume24h _ _ _) .nil
  have hchange : Looser (DexScreener.checkPriceChange token loose)
      (DexScreener.checkPriceChange token strict) := by
    refine looser_if (fun hon => h.priceChangeEnabled ▸ hon) fun _ => looser_firstOf ?_
    refine .cons (looser_range h.minPriceChangeM5 (ceilingNoLower_some h.maxPriceChangeM5) _ _ _) ?_
    refine .cons (looser_range h.minPriceChangeH1 (ceilingNoLower_some h.maxPriceChangeH1) _ _ _) ?_
    refine .cons (looser_range h.minPriceChangeH6 (ceilingNoLower_some h.maxPriceChangeH6) _ _ _) ?_
    exact .cons
      (looser_range h.minPriceChangeH24 (ceilingNoLower_some h.maxPriceChangeH24) _ _ _) .nil
  refine looser_if (fun hon => h.enabled ▸ hon) fun _ => looser_firstOf ?_
  exact .cons hinfo (.cons hactivity (.cons hliquidity (.cons hcap (.cons hfdv
    (.cons hvolume (.cons hchange .nil))))))

/-! ## GeckoTerminal, `sources/geckoterminal.rs` -/

namespace GeckoTerminal

variable (token : Token) (config : GeckoTerminalFilters)

def checkLiquidity : Option FilterRejectionReason :=
  if config.liquidityEnabled then
    enforceRange token.liquidityUsd config.minLiquidityUsd (optionalCeiling config.maxLiquidityUsd)
      .geckoTerminalLiquidityTooLow .geckoTerminalLiquidityTooHigh
  else none

def checkMarketCap : Option FilterRejectionReason :=
  if config.marketCapEnabled then
    enforceRange token.marketCap config.minMarketCapUsd (optionalCeiling config.maxMarketCapUsd)
      .geckoTerminalMarketCapTooLow .geckoTerminalMarketCapTooHigh
  else none

def checkVolume : Option FilterRejectionReason :=
  if config.volumeEnabled then
    firstOf [
      enforceFloor token.volumeM5 config.minVolume5m
        .geckoTerminalVolume5mTooLow .geckoTerminalVolume5mMissing,
      enforceFloor token.volumeH1 config.minVolume1h
        .geckoTerminalVolume1hTooLow .geckoTerminalVolume1hMissing,
      enforceFloor token.volumeH24 config.minVolume24h
        .geckoTerminalVolume24hTooLow .geckoTerminalVolume24hMissing]
  else none

def checkPriceChange : Option FilterRejectionReason :=
  if config.priceChangeEnabled then
    firstOf [
      enforceRange token.priceChangeM5 config.minPriceChangeM5 (some config.maxPriceChangeM5)
        .geckoTerminalPriceChange5mTooLow .geckoTerminalPriceChange5mTooHigh,
      enforceRange token.priceChangeH1 config.minPriceChangeH1 (some config.maxPriceChangeH1)
        .geckoTerminalPriceChange1hTooLow .geckoTerminalPriceChange1hTooHigh,
      enforceRange token.priceChangeH24 config.minPriceChangeH24 (some config.maxPriceChangeH24)
        .geckoTerminalPriceChange24hTooLow .geckoTerminalPriceChange24hTooHigh]
  else none

def checkPoolMetrics : Option FilterRejectionReason :=
  if config.poolMetricsEnabled then
    firstOf [
      if 0 < config.minPoolCount then
        match token.poolCount with
        | some count =>
          if count < config.minPoolCount then some .geckoTerminalPoolCountTooLow else none
        | none => some .geckoTerminalPoolCountMissing
      else none,
      if 0 < config.maxPoolCount ∧ token.poolCount.any (config.maxPoolCount < ·) then
        some .geckoTerminalPoolCountTooHigh
      else none,
      enforceFloor token.reserveInUsd config.minReserveUsd
        .geckoTerminalReserveTooLow .geckoTerminalReserveMissing]
  else none

def evaluate : Option FilterRejectionReason :=
  if config.enabled ∧ token.dataSource = .geckoTerminal then
    firstOf [checkLiquidity token config, checkMarketCap token config, checkVolume token config,
      checkPriceChange token config, checkPoolMetrics token config]
  else none

end GeckoTerminal

/-- A ceiling that rejects no more, where zero or less is none. -/
def OptionalCeilingNoLower (loose strict : F64) : Prop :=
  CeilingNoLower (optionalCeiling loose) (optionalCeiling strict)

/-- The same GeckoTerminal rules are on, with thresholds that reject no more; a ceiling of zero is
none. -/
structure GeckoTerminalFilters.NoStricter (loose strict : GeckoTerminalFilters) : Prop where
  enabled : loose.enabled = strict.enabled
  liquidityEnabled : loose.liquidityEnabled = strict.liquidityEnabled
  minLiquidityUsd : NoHigher loose.minLiquidityUsd strict.minLiquidityUsd
  maxLiquidityUsd : OptionalCeilingNoLower loose.maxLiquidityUsd strict.maxLiquidityUsd
  marketCapEnabled : loose.marketCapEnabled = strict.marketCapEnabled
  minMarketCapUsd : NoHigher loose.minMarketCapUsd strict.minMarketCapUsd
  maxMarketCapUsd : OptionalCeilingNoLower loose.maxMarketCapUsd strict.maxMarketCapUsd
  volumeEnabled : loose.volumeEnabled = strict.volumeEnabled
  minVolume5m : NoHigher loose.minVolume5m strict.minVolume5m
  minVolume1h : NoHigher loose.minVolume1h strict.minVolume1h
  minVolume24h : NoHigher loose.minVolume24h strict.minVolume24h
  priceChangeEnabled : loose.priceChangeEnabled = strict.priceChangeEnabled
  minPriceChangeM5 : NoHigher loose.minPriceChangeM5 strict.minPriceChangeM5
  maxPriceChangeM5 : NoHigher strict.maxPriceChangeM5 loose.maxPriceChangeM5
  minPriceChangeH1 : NoHigher loose.minPriceChangeH1 strict.minPriceChangeH1
  maxPriceChangeH1 : NoHigher strict.maxPriceChangeH1 loose.maxPriceChangeH1
  minPriceChangeH24 : NoHigher loose.minPriceChangeH24 strict.minPriceChangeH24
  maxPriceChangeH24 : NoHigher strict.maxPriceChangeH24 loose.maxPriceChangeH24
  poolMetricsEnabled : loose.poolMetricsEnabled = strict.poolMetricsEnabled
  minPoolCount : loose.minPoolCount ≤ strict.minPoolCount
  maxPoolCount : loose.maxPoolCount = 0 ∨
    (0 < strict.maxPoolCount ∧ strict.maxPoolCount ≤ loose.maxPoolCount)
  minReserveUsd : NoHigher loose.minReserveUsd strict.minReserveUsd

lemma GeckoTerminal.looser_evaluate {loose strict : GeckoTerminalFilters}
    (h : loose.NoStricter strict) (token : Token) :
    Looser (GeckoTerminal.evaluate token loose) (GeckoTerminal.evaluate token strict) := by
  have hvolume : Looser (GeckoTerminal.checkVolume token loose)
      (GeckoTerminal.checkVolume token strict) := by
    refine looser_if (fun hon => h.volumeEnabled ▸ hon) fun _ => looser_firstOf ?_
    refine .cons (looser_floor h.minVolume5m _ _ _) ?_
    refine .cons (looser_floor h.minVolume1h _ _ _) ?_
    exact .cons (looser_floor h.minVolume24h _ _ _) .nil
  have hchange : Looser (GeckoTerminal.checkPriceChange token loose)
      (GeckoTerminal.checkPriceChange token strict) := by
    refine looser_if (fun hon => h.priceChangeEnabled ▸ hon) fun _ => looser_firstOf ?_
    refine .cons (looser_range h.minPriceChangeM5 (ceilingNoLower_some h.maxPriceChangeM5) _ _ _) ?_
    refine .cons (looser_range h.minPriceChangeH1 (ceilingNoLower_some h.maxPriceChangeH1) _ _ _) ?_
    exact .cons
      (looser_range h.minPriceChangeH24 (ceilingNoLower_some h.maxPriceChangeH24) _ _ _) .nil
  have hpools : Looser (GeckoTerminal.checkPoolMetrics token loose)
      (GeckoTerminal.checkPoolMetrics token strict) := by
    refine looser_if (fun hon => h.poolMetricsEnabled ▸ hon) fun _ => looser_firstOf ?_
    refine .cons (looser_if (fun hon => hon.trans_le h.minPoolCount) fun _ => ?_) ?_
    · cases token.poolCount with
      | none => exact .refl _
      | some count => exact looser_reject (fun hlow => hlow.trans_le h.minPoolCount) _
    refine .cons (looser_reject ?_ _) (.cons (looser_floor h.minReserveUsd _ _ _) .nil)
    rintro ⟨hon, hhigh⟩
    rcases h.maxPoolCount with hnone | ⟨hpos, hle⟩
    · omega
    · refine ⟨hpos, ?_⟩
      cases hcount : token.poolCount with
      | none => simp [hcount] at hhigh
      | some count =>
        simp only [hcount, Option.any_some, decide_eq_true_eq] at hhigh ⊢
        exact hle.trans_lt hhigh
  refine looser_if (And.imp_left fun hon => h.enabled ▸ hon) fun _ => looser_firstOf ?_
  refine .cons (looser_if (fun hon => h.liquidityEnabled ▸ hon) fun _ =>
    looser_range h.minLiquidityUsd h.maxLiquidityUsd _ _ _) ?_
  refine .cons (looser_if (fun hon => h.marketCapEnabled ▸ hon) fun _ =>
    looser_range h.minMarketCapUsd h.maxMarketCapUsd _ _ _) ?_
  exact .cons hvolume (.cons hchange (.cons hpools .nil))

end Dripline.Filtering
