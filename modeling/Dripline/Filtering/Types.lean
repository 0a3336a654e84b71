import Dripline.Strategies.Types

/-!
# Tokens, and how they are filtered

`tokens/types.rs`, `config/schemas/filtering.rs`, `filtering/sources/mod.rs`; of a token, what a
filter reads.

* `Token` — readings may be absent, and one that is there may be no number, or infinite.
* `FilteringConfig` — which rules are on, and their thresholds.
* `FilterRejectionReason` — why a token is rejected.
* `less` — one reading below another; nothing is below or above what is no number.
* `NoHigher` — the order of thresholds.

A source without a file is in `tokens/types.rs` or the file of its section, where a definition
without a comment is the one of its name.
-/

namespace Dripline.Filtering

open Dripline.Strategies (F64)

/-! ## Tokens -/

inductive DataSource
  | dexScreener
  | geckoTerminal
  | rugcheck
  | unknown
  deriving DecidableEq

structure SecurityRisk where
  name : String
  value : String
  description : String
  level : String

structure TokenHolder where
  pct : F64
  insider : Bool

/-- Source: `Token`, times in nanoseconds -/
structure Token where
  mint : String
  symbol : String
  name : String
  decimals : Option ℕ
  imageUrl : Option String
  dataSource : DataSource
  firstDiscoveredAt : ℤ
  priceChangeM5 : Option F64
  priceChangeH1 : Option F64
  priceChangeH6 : Option F64
  priceChangeH24 : Option F64
  marketCap : Option F64
  fdv : Option F64
  liquidityUsd : Option F64
  volumeM5 : Option F64
  volumeH1 : Option F64
  volumeH6 : Option F64
  volumeH24 : Option F64
  poolCount : Option ℕ
  reserveInUsd : Option F64
  txnsM5Buys : Option ℤ
  txnsM5Sells : Option ℤ
  txnsH1Buys : Option ℤ
  txnsH1Sells : Option ℤ
  websites : List String
  mintAuthority : Option String
  freezeAuthority : Option String
  updateAuthority : Option String
  isMutable : Option Bool
  securityScore : Option ℤ
  isRugged : Bool
  tokenType : Option String
  graphInsidersDetected : Option ℤ
  lpProviderCount : Option ℤ
  securityRisks : List SecurityRisk
  totalHolders : Option ℤ
  topHolders : List TokenHolder
  creatorBalancePct : Option F64
  transferFeePct : Option F64
  transferFeeMaxAmount : Option ℤ
  transferFeeAuthority : Option String

/-- `i64::saturating_add`. -/
def saturatingAdd (a b : ℤ) : ℤ := max (-2 ^ 63) (min (a + b) (2 ^ 63 - 1))

def txnsTotal : Option ℤ → Option ℤ → Option ℤ
  | some buys, some sells => some (saturatingAdd buys sells)
  | some count, none | none, some count => some count
  | none, none => none

def Token.txns5mTotal (token : Token) : Option ℤ := txnsTotal token.txnsM5Buys token.txnsM5Sells

def Token.txns1hTotal (token : Token) : Option ℤ := txnsTotal token.txnsH1Buys token.txnsH1Sells

/-! ## Rules, `schemas/filtering.rs` -/

structure DexScreenerFilters where
  enabled : Bool
  tokenInfoEnabled : Bool
  requireNameAndSymbol : Bool
  requireLogoUrl : Bool
  requireWebsiteUrl : Bool
  liquidityEnabled : Bool
  minLiquidityUsd : F64
  maxLiquidityUsd : F64
  marketCapEnabled : Bool
  minMarketCapUsd : F64
  maxMarketCapUsd : F64
  fdvEnabled : Bool
  minFdvUsd : F64
  maxFdvUsd : F64
  transactionsEnabled : Bool
  minTransactions5min : ℤ
  minTransactions1h : ℤ
  volumeEnabled : Bool
  minVolume5m : F64
  minVolume1h : F64
  minVolume6h : F64
  minVolume24h : F64
  priceChangeEnabled : Bool
  minPriceChangeM5 : F64
  maxPriceChangeM5 : F64
  minPriceChangeH1 : F64
  maxPriceChangeH1 : F64
  minPriceChangeH6 : F64
  maxPriceChangeH6 : F64
  minPriceChangeH24 : F64
  maxPriceChangeH24 : F64

structure GeckoTerminalFilters where
  enabled : Bool
  liquidityEnabled : Bool
  minLiquidityUsd : F64
  maxLiquidityUsd : F64
  marketCapEnabled : Bool
  minMarketCapUsd : F64
  maxMarketCapUsd : F64
  volumeEnabled : Bool
  minVolume5m : F64
  minVolume1h : F64
  minVolume24h : F64
  priceChangeEnabled : Bool
  minPriceChangeM5 : F64
  maxPriceChangeM5 : F64
  minPriceChangeH1 : F64
  maxPriceChangeH1 : F64
  minPriceChangeH24 : F64
  maxPriceChangeH24 : F64
  poolMetricsEnabled : Bool
  minPoolCount : ℕ
  maxPoolCount : ℕ
  minReserveUsd : F64

structure RugCheckFilters where
  enabled : Bool
  riskScoreEnabled : Bool
  maxRiskScore : ℤ
  authorityChecksEnabled : Bool
  requireAuthoritiesSafe : Bool
  allowMintAuthority : Bool
  allowFreezeAuthority : Bool
  riskLevelEnabled : Bool
  blockDangerLevel : Bool
  holderDistributionEnabled : Bool
  maxTopHolderPct : F64
  maxTop3HoldersPct : F64
  minUniqueHolders : ℕ
  lpLockEnabled : Bool
  minPumpfunLpLockPct : F64
  minRegularLpLockPct : F64
  ruggedCheckEnabled : Bool
  blockRuggedTokens : Bool
  graphInsidersEnabled : Bool
  maxGraphInsiders : ℤ
  insiderHolderChecksEnabled : Bool
  maxInsiderHoldersInTop10 : ℕ
  maxInsiderTotalPct : F64
  creatorBalanceEnabled : Bool
  maxCreatorBalancePct : F64
  lpProvidersEnabled : Bool
  minLpProviders : ℤ
  transferFeeEnabled : Bool
  maxTransferFeePct : F64
  blockTransferFeeTokens : Bool

structure OnChainFilters where
  enabled : Bool
  rejectNumericSymbols : Bool
  rejectEmptySymbols : Bool
  rejectSingleCharSymbols : Bool
  rejectKnownScamAuthorities : Bool
  rejectImmutableWithFreeze : Bool
  combinedRiskEnabled : Bool
  maxCombinedRiskScore : ℕ

structure FilteringConfig where
  cooldownEnabled : Bool
  checkCooldown : Bool
  ageEnabled : Bool
  minTokenAgeMinutes : ℤ
  onchain : OnChainFilters
  dexscreener : DexScreenerFilters
  geckoterminal : GeckoTerminalFilters
  rugcheck : RugCheckFilters

/-- Source: `filtering/sources/mod.rs` -/
inductive FilterRejectionReason
  | noDecimalsInDatabase
  | tokenTooNew
  | cooldownFiltered
  | dexScreenerDataMissing
  | geckoTerminalDataMissing
  | rugcheckDataMissing
  | onChainNumericSymbol
  | onChainEmptySymbol
  | onChainSuspiciousSymbol
  | onChainKnownScamAuthority
  | onChainImmutableWithFreeze
  | onChainHighRiskScore
  | llmAnalysisRejected (reason : String) (confidence : ℕ) (provider : String)
  | dexScreenerEmptyName
  | dexScreenerEmptySymbol
  | dexScreenerEmptyLogoUrl
  | dexScreenerEmptyWebsiteUrl
  | dexScreenerInsufficientTransactions5Min
  | dexScreenerInsufficientTransactions1H
  | dexScreenerZeroLiquidity
  | dexScreenerInsufficientLiquidity
  | dexScreenerLiquidityTooHigh
  | dexScreenerMarketCapTooLow
  | dexScreenerMarketCapTooHigh
  | dexScreenerVolumeTooLow
  | dexScreenerVolumeMissing
  | dexScreenerFdvTooLow
  | dexScreenerFdvTooHigh
  | dexScreenerVolume5mTooLow
  | dexScreenerVolume5mMissing
  | dexScreenerVolume1hTooLow
  | dexScreenerVolume1hMissing
  | dexScreenerVolume6hTooLow
  | dexScreenerVolume6hMissing
  | dexScreenerPriceChange5mTooLow
  | dexScreenerPriceChange5mTooHigh
  | dexScreenerPriceChangeTooLow
  | dexScreenerPriceChangeTooHigh
  | dexScreenerPriceChange6hTooLow
  | dexScreenerPriceChange6hTooHigh
  | dexScreenerPriceChange24hTooLow
  | dexScreenerPriceChange24hTooHigh
  | geckoTerminalLiquidityTooLow
  | geckoTerminalLiquidityTooHigh
  | geckoTerminalMarketCapTooLow
  | geckoTerminalMarketCapTooHigh
  | geckoTerminalVolume5mTooLow
  | geckoTerminalVolume5mMissing
  | geckoTerminalVolume1hTooLow
  | geckoTerminalVolume1hMissing
  | geckoTerminalVolume24hTooLow
  | geckoTerminalVolume24hMissing
  | geckoTerminalPriceChange5mTooLow
  | geckoTerminalPriceChange5mTooHigh
  | geckoTerminalPriceChange1hTooLow
  | geckoTerminalPriceChange1hTooHigh
  | geckoTerminalPriceChange24hTooLow
  | geckoTerminalPriceChange24hTooHigh
  | geckoTerminalPoolCountTooLow
  | geckoTerminalPoolCountTooHigh
  | geckoTerminalPoolCountMissing
  | geckoTerminalReserveTooLow
  | geckoTerminalReserveMissing
  | rugcheckRuggedToken
  | rugcheckRiskScoreTooHigh
  | rugcheckRiskLevelDanger
  | rugcheckMintAuthorityBlocked
  | rugcheckFreezeAuthorityBlocked
  | rugcheckTopHolderTooHigh
  | rugcheckTop3HoldersTooHigh
  | rugcheckNotEnoughHolders
  | rugcheckInsiderHolderCount
  | rugcheckInsiderTotalPct
  | rugcheckCreatorBalanceTooHigh
  | rugcheckTransferFeePresent
  | rugcheckTransferFeeTooHigh
  | rugcheckGraphInsidersTooHigh
  | rugcheckLpProvidersTooLow
  | rugcheckLpProvidersMissing
  | rugcheckLpLockTooLow
  | rugcheckLpLockMissing

/-! ## Readings in order -/

/-- `<` of two readings. -/
def less : F64 → F64 → Bool
  | .nan, _ | _, .nan => false
  | .negInf, bound => bound ≠ .negInf
  | .posInf, _ => false
  | .finite _, .negInf => false
  | .finite value, .finite bound => decide (value < bound)
  | .finite _, .posInf => true

/-- `f64::is_finite`. -/
def isFinite : F64 → Bool
  | .finite _ => true
  | .nan | .negInf | .posInf => false

/-- A threshold that is the same or lower. -/
def NoHigher (a b : F64) : Prop := a = b ∨ less a b = true

lemma less_of_noHigher {value a b : F64} (h : NoHigher a b) (hless : less value a = true) :
    less value b = true := by
  rcases h with rfl | hab
  · exact hless
  · cases value with
    | nan => simp [less] at hless
    | negInf =>
      cases b with
      | nan | negInf => cases a <;> simp [less] at hab
      | finite b => rfl
      | posInf => rfl
    | posInf => cases a <;> simp [less] at hless
    | finite value =>
      cases a with
      | nan | negInf => simp [less] at hless
      | posInf => cases b <;> simp [less] at hab
      | finite a =>
        cases b with
        | nan | negInf => simp [less] at hab
        | posInf => rfl
        | finite b =>
          simp only [less, decide_eq_true_eq] at hless hab ⊢
          exact hless.trans hab

lemma less_of_higher {value a b : F64} (h : NoHigher a b) (hless : less b value = true) :
    less a value = true := by
  rcases h with rfl | hab
  · exact hless
  · exact less_of_noHigher (.inr hless) hab

end Dripline.Filtering
