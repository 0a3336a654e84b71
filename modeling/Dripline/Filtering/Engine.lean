import Dripline.Filtering.Rugcheck

/-!
# The filter pipeline

`filtering/engine.rs`. What the language model says of a token is given.

* `passes_iff` — a reading that is no finite number helps a token past nothing else.
-/

namespace Dripline.Filtering

open List

open Dripline.Strategies (F64)

/-! ## The pipeline -/

section Pipeline

variable (env : Surroundings) (verdict : Option FilterRejectionReason) (token : Token)
  (config : FilteringConfig)

/-- There is something from Rugcheck. Source: `engine.rs` -/
def hasRugData : Bool :=
  token.securityScore.isSome || token.tokenType.isSome || token.mintAuthority.isSome ||
    token.freezeAuthority.isSome || token.graphInsidersDetected.isSome ||
    token.lpProviderCount.isSome || token.totalHolders.isSome || !token.securityRisks.isEmpty ||
    !token.topHolders.isEmpty || token.creatorBalancePct.isSome || token.transferFeePct.isSome ||
    token.transferFeeMaxAmount.isSome || token.transferFeeAuthority.isSome

/-- The market filters, each on the tokens that it covers. Source: `engine.rs`,
`apply_all_filters` -/
def marketData : Option FilterRejectionReason :=
  firstOf [
    if config.dexscreener.enabled ∧ token.dataSource = .dexScreener then
      DexScreener.evaluate token config.dexscreener
    else none,
    if config.geckoterminal.enabled ∧ token.dataSource = .geckoTerminal then
      GeckoTerminal.evaluate token config.geckoterminal
    else none,
    if ¬((config.dexscreener.enabled ∧ token.dataSource = .dexScreener) ∨
        (config.geckoterminal.enabled ∧ token.dataSource = .geckoTerminal)) then
      if config.dexscreener.enabled then some .dexScreenerDataMissing
      else if config.geckoterminal.enabled then some .geckoTerminalDataMissing
      else none
    else none]

/-- The Rugcheck filters, on what there must be. Source: `engine.rs`, `apply_all_filters` -/
def rugcheckData : Option FilterRejectionReason :=
  if config.rugcheck.enabled then
    firstOf [
      if hasRugData token = false then some .rugcheckDataMissing else none,
      Rugcheck.evaluate token config.rugcheck]
  else none

/-- Source: `engine.rs` -/
def applyAllFilters : Except FilterRejectionReason Unit :=
  match firstOf [Meta.evaluate env token config, OnChain.evaluate env token config.onchain,
      marketData token config, rugcheckData token config, verdict] with
  | some reason => .error reason
  | none => .ok ()

/-- A token that is not rejected. -/
def Passes : Prop := applyAllFilters env verdict token config = .ok ()

end Pipeline

/-- The same rules are on, with thresholds and flags that reject no more. -/
structure FilteringConfig.NoStricter (loose strict : FilteringConfig) : Prop where
  cooldownEnabled : loose.cooldownEnabled = strict.cooldownEnabled
  checkCooldown : Implies loose.checkCooldown strict.checkCooldown
  ageEnabled : loose.ageEnabled = strict.ageEnabled
  minTokenAgeMinutes : loose.minTokenAgeMinutes ≤ strict.minTokenAgeMinutes
  onchain : loose.onchain.NoStricter strict.onchain
  dexscreener : loose.dexscreener.NoStricter strict.dexscreener
  geckoterminal : loose.geckoterminal.NoStricter strict.geckoterminal
  rugcheck : loose.rugcheck.NoStricter strict.rugcheck

/-! ## Readings -/

/-- The readings of a token that may be absent. -/
inductive Reading
  | priceChangeM5
  | priceChangeH1
  | priceChangeH6
  | priceChangeH24
  | marketCap
  | fdv
  | liquidityUsd
  | volumeM5
  | volumeH1
  | volumeH6
  | volumeH24
  | reserveInUsd
  | creatorBalancePct
  | transferFeePct

/-- The token with another reading, or without it. -/
def Token.set (token : Token) (value : Option F64) : Reading → Token
  | .priceChangeM5 => { token with priceChangeM5 := value }
  | .priceChangeH1 => { token with priceChangeH1 := value }
  | .priceChangeH6 => { token with priceChangeH6 := value }
  | .priceChangeH24 => { token with priceChangeH24 := value }
  | .marketCap => { token with marketCap := value }
  | .fdv => { token with fdv := value }
  | .liquidityUsd => { token with liquidityUsd := value }
  | .volumeM5 => { token with volumeM5 := value }
  | .volumeH1 => { token with volumeH1 := value }
  | .volumeH6 => { token with volumeH6 := value }
  | .volumeH24 => { token with volumeH24 := value }
  | .reserveInUsd => { token with reserveInUsd := value }
  | .creatorBalancePct => { token with creatorBalancePct := value }
  | .transferFeePct => { token with transferFeePct := value }

/-- A token with a reading that is no finite number, and the same token without that reading: a
field, a holder with its stake, or a share in the texts of a risk. -/
inductive Blurred : Token → Token → Prop
  | field (token : Token) (reading : Reading) (value : F64) (h : isFinite value = false) :
      Blurred (token.set (some value) reading) (token.set none reading)
  | holder (token : Token) (before after : List TokenHolder) (holder : TokenHolder)
      (h : isFinite holder.pct = false) :
      Blurred { token with topHolders := before ++ holder :: after }
        { token with topHolders := before ++ after }
  | risk (token : Token) (before after : List SecurityRisk) (risk risk' : SecurityRisk)
      (value : F64) (h : isFinite value = false)
      (present : Rugcheck.extractPercentageFromRisk risk = some value)
      (absent : Rugcheck.extractPercentageFromRisk risk' = none) (level : risk'.level = risk.level) :
      Blurred { token with securityRisks := before ++ risk :: after }
        { token with securityRisks := before ++ risk' :: after }

/-- What a token must bring without the reading: there is something from Rugcheck, few enough
insiders are among the first holders, and enough of the liquidity is locked. -/
structure Withstands (config : FilteringConfig) (token : Token) : Prop where
  rugData : config.rugcheck.enabled = true → hasRugData token = true
  insiders : config.rugcheck.enabled = true → config.rugcheck.insiderHolderChecksEnabled = true →
    Rugcheck.insiderCount token ≤ config.rugcheck.maxInsiderHoldersInTop10
  locked : config.rugcheck.enabled = true → config.rugcheck.lpLockEnabled = true →
    ∀ lockPct ∈ Rugcheck.extractLpLockPercentage token,
      less lockPct (Rugcheck.requiredLpLock token config.rugcheck) = false
  lockKnown : config.rugcheck.enabled = true → config.rugcheck.lpLockEnabled = true →
    Rugcheck.extractLpLockPercentage token = none → Rugcheck.isPumpfunToken token = false

/-! ## Stricter rules -/

section Stricter

variable {loose strict : FilteringConfig} (h : loose.NoStricter strict) (env : Surroundings)
  (token : Token)

include h

lemma Meta.looser_evaluate :
    Looser (Meta.evaluate env token loose) (Meta.evaluate env token strict) := by
  apply looser_firstOf
  refine .cons (.refl _) ?_
  refine .cons (looser_reject ?_ _) (.cons (looser_reject ?_ _) .nil)
  · rintro ⟨hon, hnew⟩
    exact ⟨h.ageEnabled ▸ hon, lt_of_lt_of_le hnew h.minTokenAgeMinutes⟩
  · rintro ⟨hon, hcheck, hcooldown⟩
    exact ⟨h.cooldownEnabled ▸ hon, h.checkCooldown hcheck, hcooldown⟩

lemma looser_marketData : Looser (marketData token loose) (marketData token strict) := by
  apply looser_firstOf
  have hdex := h.dexscreener.enabled
  have hgecko := h.geckoterminal.enabled
  rw [hdex, hgecko]
  refine .cons (looser_if id fun _ => DexScreener.looser_evaluate h.dexscreener token) ?_
  refine .cons (looser_if id fun _ => GeckoTerminal.looser_evaluate h.geckoterminal token) ?_
  exact .cons (.refl _) .nil

lemma looser_rugcheckData : Looser (rugcheckData token loose) (rugcheckData token strict) := by
  refine looser_if (fun hon => h.rugcheck.enabled ▸ hon) fun _ => looser_firstOf ?_
  exact .cons (.refl _) (.cons (Rugcheck.looser_evaluate h.rugcheck token) .nil)

end Stricter

lemma passes_iff_none {env : Surroundings} {verdict : Option FilterRejectionReason}
    {token : Token} {config : FilteringConfig} : Passes env verdict token config ↔
      Meta.evaluate env token config = none ∧ OnChain.evaluate env token config.onchain = none ∧
        marketData token config = none ∧ rugcheckData token config = none ∧ verdict = none := by
  have hall : Passes env verdict token config ↔ firstOf [Meta.evaluate env token config,
      OnChain.evaluate env token config.onchain, marketData token config,
      rugcheckData token config, verdict] = none := by
    rw [Passes, applyAllFilters]
    cases firstOf [Meta.evaluate env token config, OnChain.evaluate env token config.onchain,
      marketData token config, rugcheckData token config, verdict] <;> simp
  simp only [hall, firstOf_eq_none, forall_mem_cons, not_mem_nil, false_implies,
    implies_true, and_true]

lemma passes_mono {loose strict : FilteringConfig} (h : loose.NoStricter strict)
    (env : Surroundings) (verdict : Option FilterRejectionReason) (token : Token)
    (hpasses : Passes env verdict token strict) : Passes env verdict token loose := by
  rw [passes_iff_none] at hpasses ⊢
  obtain ⟨hmeta, honchain, hmarket, hrugcheck, hverdict⟩ := hpasses
  exact ⟨Meta.looser_evaluate h env token hmeta,
    OnChain.looser_evaluate h.onchain env token honchain, looser_marketData h token hmarket,
    looser_rugcheckData h token hrugcheck, hverdict⟩

/-! ## Readings that cannot be used -/

section Blurred

variable {token absent : Token} (env : Surroundings) (config : FilteringConfig) {value : F64}

lemma DexScreener.evaluate_set (token : Token) (config : DexScreenerFilters)
    (h : isFinite value = false) (reading : Reading) :
    DexScreener.evaluate (token.set (some value) reading) config =
      DexScreener.evaluate (token.set none reading) config := by
  have hliquidity : DexScreener.checkLiquidity (token.set (some value) reading) config =
      DexScreener.checkLiquidity (token.set none reading) config := by
    cases reading with
    | liquidityUsd =>
      simp only [DexScreener.checkLiquidity, Token.set, enforceRange_unusable h,
        reading_unusable h, reading_none]
      rfl
    | _ => rfl
  have hcap : DexScreener.checkMarketCap (token.set (some value) reading) config =
      DexScreener.checkMarketCap (token.set none reading) config := by
    cases reading with
    | marketCap => simp only [DexScreener.checkMarketCap, Token.set, enforceRange_unusable h]
    | _ => rfl
  have hfdv : DexScreener.checkFdv (token.set (some value) reading) config =
      DexScreener.checkFdv (token.set none reading) config := by
    cases reading with
    | fdv => simp only [DexScreener.checkFdv, Token.set, enforceRange_unusable h]
    | _ => rfl
  have hvolume : DexScreener.checkVolume (token.set (some value) reading) config =
      DexScreener.checkVolume (token.set none reading) config := by
    cases reading with
    | volumeM5 | volumeH1 | volumeH6 | volumeH24 =>
      simp only [DexScreener.checkVolume, Token.set, enforceFloor_unusable h]
    | _ => rfl
  have hchange : DexScreener.checkPriceChange (token.set (some value) reading) config =
      DexScreener.checkPriceChange (token.set none reading) config := by
    cases reading with
    | priceChangeM5 | priceChangeH1 | priceChangeH6 | priceChangeH24 =>
      simp only [DexScreener.checkPriceChange, Token.set, enforceRange_unusable h]
    | _ => rfl
  have hinfo : DexScreener.checkTokenInfo (token.set (some value) reading) config =
      DexScreener.checkTokenInfo (token.set none reading) config := by
    cases reading <;> rfl
  have hactivity : DexScreener.checkTransactionActivity (token.set (some value) reading) config =
      DexScreener.checkTransactionActivity (token.set none reading) config := by
    cases reading <;> rfl
  simp only [DexScreener.evaluate, hinfo, hactivity, hliquidity, hcap, hfdv, hvolume, hchange]

lemma GeckoTerminal.evaluate_set (token : Token) (config : GeckoTerminalFilters)
    (h : isFinite value = false) (reading : Reading) :
    GeckoTerminal.evaluate (token.set (some value) reading) config =
      GeckoTerminal.evaluate (token.set none reading) config := by
  have hliquidity : GeckoTerminal.checkLiquidity (token.set (some value) reading) config =
      GeckoTerminal.checkLiquidity (token.set none reading) config := by
    cases reading with
    | liquidityUsd => simp only [GeckoTerminal.checkLiquidity, Token.set, enforceRange_unusable h]
    | _ => rfl
  have hcap : GeckoTerminal.checkMarketCap (token.set (some value) reading) config =
      GeckoTerminal.checkMarketCap (token.set none reading) config := by
    cases reading with
    | marketCap => simp only [GeckoTerminal.checkMarketCap, Token.set, enforceRange_unusable h]
    | _ => rfl
  have hvolume : GeckoTerminal.checkVolume (token.set (some value) reading) config =
      GeckoTerminal.checkVolume (token.set none reading) config := by
    cases reading with
    | volumeM5 | volumeH1 | volumeH24 =>
      simp only [GeckoTerminal.checkVolume, Token.set, enforceFloor_unusable h]
    | _ => rfl
  have hchange : GeckoTerminal.checkPriceChange (token.set (some value) reading) config =
      GeckoTerminal.checkPriceChange (token.set none reading) config := by
    cases reading with
    | priceChangeM5 | priceChangeH1 | priceChangeH24 =>
      simp only [GeckoTerminal.checkPriceChange, Token.set, enforceRange_unusable h]
    | _ => rfl
  have hpools : GeckoTerminal.checkPoolMetrics (token.set (some value) reading) config =
      GeckoTerminal.checkPoolMetrics (token.set none reading) config := by
    cases reading with
    | reserveInUsd =>
      simp only [GeckoTerminal.checkPoolMetrics, Token.set, enforceFloor_unusable h]
      rfl
    | _ => rfl
  have hsource : (token.set (some value) reading).dataSource = (token.set none reading).dataSource := by
    cases reading <;> rfl
  simp only [GeckoTerminal.evaluate, hliquidity, hcap, hvolume, hchange, hpools, hsource]

lemma marketData_set (token : Token) (h : isFinite value = false) (reading : Reading) :
    marketData (token.set (some value) reading) config =
      marketData (token.set none reading) config := by
  have hsource : (token.set (some value) reading).dataSource = (token.set none reading).dataSource := by
    cases reading <;> rfl
  simp only [marketData, DexScreener.evaluate_set token _ h, GeckoTerminal.evaluate_set token _ h,
    hsource]

lemma Blurred.others (h : Blurred token absent) :
    Meta.evaluate env token config = Meta.evaluate env absent config ∧
      OnChain.evaluate env token config.onchain = OnChain.evaluate env absent config.onchain ∧
        marketData token config = marketData absent config := by
  cases h with
  | field token reading value h =>
    refine ⟨?_, ?_, marketData_set config token h reading⟩
    · cases reading <;> rfl
    · cases reading <;> rfl
  | holder token before after holder h
  | risk token before after risk risk' value h present absent level => exact ⟨rfl, rfl, rfl⟩

/-- The rules of Rugcheck but those of insiders and of locked liquidity. -/
def Rugcheck.otherRules (token : Token) (config : RugCheckFilters) :
    List (Option FilterRejectionReason) :=
  [checkRugged token config, checkRiskScore token config, checkRiskLevel token config,
    checkAuthorities token config, checkHolderDistribution token config,
    checkGraphInsiders token config, checkCreatorBalance token config,
    checkTransferFee token config, checkLpProviders token config]

lemma Rugcheck.evaluate_eq_none (token : Token) (config : RugCheckFilters)
    (hon : config.enabled = true) : Rugcheck.evaluate token config = none ↔
      (∀ rule ∈ Rugcheck.otherRules token config, rule = none) ∧
        Rugcheck.checkInsiderHolders token config = none ∧
          Rugcheck.checkLpLock token config = none := by
  rw [Rugcheck.evaluate, if_pos hon, firstOf_eq_none, Rugcheck.otherRules]
  simp only [forall_mem_cons, not_mem_nil, false_implies, implies_true, and_true]
  constructor
  · rintro ⟨h₁, h₂, h₃, h₄, h₅, hinsiders, h₇, h₈, h₉, h₁₀, hlock⟩
    exact ⟨⟨h₁, h₂, h₃, h₄, h₅, h₇, h₈, h₉, h₁₀⟩, hinsiders, hlock⟩
  · rintro ⟨⟨h₁, h₂, h₃, h₄, h₅, h₇, h₈, h₉, h₁₀⟩, hinsiders, hlock⟩
    exact ⟨h₁, h₂, h₃, h₄, h₅, hinsiders, h₇, h₈, h₉, h₁₀, hlock⟩

lemma Rugcheck.pctsOf_holder (before after : List TokenHolder) {holder : TokenHolder}
    (h : isFinite holder.pct = false) :
    Rugcheck.pctsOf (before ++ holder :: after) = Rugcheck.pctsOf (before ++ after) := by
  have hnone : Rugcheck.finitePct holder.pct = none := by
    cases hpct : holder.pct with
    | finite value => simp [hpct, isFinite] at h
    | _ => rfl
  simp only [Rugcheck.pctsOf, filterMap_append, filterMap_cons, hnone]

lemma Rugcheck.looser_noBalance (token : Token) (config : RugCheckFilters) (value : F64) :
    Looser (Rugcheck.checkCreatorBalance (token.set none .creatorBalancePct) config)
      (Rugcheck.checkCreatorBalance (token.set (some value) .creatorBalancePct) config) := by
  apply looser_reject
  rintro ⟨hon, hnone⟩
  simp [Token.set] at hnone

lemma Rugcheck.looser_unusableFee (token : Token) (config : RugCheckFilters)
    (h : isFinite value = false) :
    Looser (Rugcheck.checkTransferFee (token.set none .transferFeePct) config)
      (Rugcheck.checkTransferFee (token.set (some value) .transferFeePct) config) := by
  refine looser_if id fun _ => ?_
  intro hstrict
  simp [Token.set, h] at hstrict

lemma Blurred.looser_otherRules (h : Blurred token absent) (config : RugCheckFilters) :
    List.Forall₂ Looser (Rugcheck.otherRules absent config) (Rugcheck.otherRules token config) := by
  cases h with
  | field token reading value h =>
    cases reading with
    | creatorBalancePct =>
      refine .cons (.refl _) (.cons (.refl _) (.cons (.refl _) (.cons (.refl _) ?_)))
      refine .cons (.refl _) (.cons (.refl _) ?_)
      exact .cons (Rugcheck.looser_noBalance token config value)
        (.cons (.refl _) (.cons (.refl _) .nil))
    | transferFeePct =>
      refine .cons (.refl _) (.cons (.refl _) (.cons (.refl _) (.cons (.refl _) ?_)))
      refine .cons (.refl _) (.cons (.refl _) (.cons (.refl _) ?_))
      exact .cons (Rugcheck.looser_unusableFee token config h) (.cons (.refl _) .nil)
    | _ => exact forall₂_same.mpr fun rule _ => .refl rule
  | holder token before after holder h =>
    have hlargest : Rugcheck.threeLargestPcts { token with topHolders := before ++ after } =
        Rugcheck.threeLargestPcts { token with topHolders := before ++ holder :: after } := by
      simp only [Rugcheck.threeLargestPcts, Rugcheck.pctsOf_holder before after h]
    have hdistribution : Rugcheck.checkHolderDistribution
          { token with topHolders := before ++ after } config =
        Rugcheck.checkHolderDistribution
          { token with topHolders := before ++ holder :: after } config := by
      simp only [Rugcheck.checkHolderDistribution, hlargest]
    refine .cons (.refl _) (.cons (.refl _) (.cons (.refl _) (.cons (.refl _) ?_)))
    refine .cons (hdistribution ▸ .refl _) ?_
    exact forall₂_same.mpr fun rule _ => .refl rule
  | risk token before after risk risk' value h present absent level =>
    have hlevel : Rugcheck.checkRiskLevel
          { token with securityRisks := before ++ risk' :: after } config =
        Rugcheck.checkRiskLevel { token with securityRisks := before ++ risk :: after } config := by
      simp only [Rugcheck.checkRiskLevel, any_append, any_cons, level]
    refine .cons (.refl _) (.cons (.refl _) (.cons (hlevel ▸ .refl _) ?_))
    exact forall₂_same.mpr fun rule _ => .refl rule

lemma Blurred.insiderTotalPct_eq (h : Blurred token absent) :
    Rugcheck.insiderTotalPct absent = Rugcheck.insiderTotalPct token := by
  cases h with
  | field token reading value h => cases reading <;> rfl
  | holder token before after holder h =>
    simp only [Rugcheck.insiderTotalPct, filter_append, filter_cons]
    split
    · rw [Rugcheck.pctsOf_holder _ _ h]
    · rfl
  | risk token before after risk risk' value h present absent level => rfl

lemma Blurred.rugcheckData_iff (h : Blurred token absent)
    (hpasses : rugcheckData token config = none) :
    rugcheckData absent config = none ↔ Withstands config absent := by
  by_cases hon : config.rugcheck.enabled = true
  · rw [rugcheckData, if_pos hon, firstOf_eq_none] at hpasses ⊢
    simp only [forall_mem_cons, not_mem_nil, false_implies, implies_true, and_true,
      Rugcheck.evaluate_eq_none _ _ hon] at hpasses ⊢
    obtain ⟨-, hothers, hinsiders, -⟩ := hpasses
    have hothers' : ∀ rule ∈ Rugcheck.otherRules absent config.rugcheck, rule = none :=
      firstOf_eq_none.mp (looser_firstOf (h.looser_otherRules config.rugcheck)
        (firstOf_eq_none.mpr hothers))
    have htotal : config.rugcheck.insiderHolderChecksEnabled = true →
        less config.rugcheck.maxInsiderTotalPct
          (.finite (Rugcheck.insiderTotalPct absent)) = false := by
      intro hcheck
      simp only [Rugcheck.checkInsiderHolders, if_pos hcheck, firstOf_eq_none, forall_mem_cons,
        h.insiderTotalPct_eq] at hinsiders ⊢
      simpa using hinsiders.2.1
    constructor
    · rintro ⟨hdata, -, hcount, hlock⟩
      refine ⟨fun _ => by simpa using hdata, ?_, ?_, ?_⟩
      · intro _ hcheck
        simp only [Rugcheck.checkInsiderHolders, if_pos hcheck, firstOf_eq_none,
          forall_mem_cons] at hcount
        simpa using hcount.1
      · intro _ hcheck lockPct hlockPct
        simp only [Rugcheck.checkLpLock, if_pos hcheck, Option.mem_def.mp hlockPct] at hlock
        simpa using hlock
      · intro _ hcheck hunknown
        simp only [Rugcheck.checkLpLock, if_pos hcheck, hunknown] at hlock
        simpa using hlock
    · intro hwithstands
      refine ⟨by simp [hwithstands.rugData hon], hothers', ?_, ?_⟩
      · rw [Rugcheck.checkInsiderHolders]
        split
        · rename_i hcheck
          have hcount := hwithstands.insiders hon hcheck
          simp [htotal hcheck, hcount]
        · rfl
      · rw [Rugcheck.checkLpLock]
        split
        · rename_i hcheck
          cases hlock : Rugcheck.extractLpLockPercentage absent with
          | none => simp [hwithstands.lockKnown hon hcheck hlock]
          | some lockPct => simp [hwithstands.locked hon hcheck lockPct hlock]
        · rfl
  · -- no rule is on that could reject it
    constructor
    · intro _
      exact ⟨fun h => absurd h hon, fun h => absurd h hon, fun h => absurd h hon,
        fun h => absurd h hon⟩
    · intro _
      rw [rugcheckData, if_neg hon]

end Blurred

/-- **Stricter rules pass no more**, and a reading that is no finite number helps a token past the
filters exactly when the token would not withstand without it. -/
theorem passes_iff (env : Surroundings) (verdict : Option FilterRejectionReason) :
    (∀ token (loose strict : FilteringConfig), loose.NoStricter strict →
      Passes env verdict token strict → Passes env verdict token loose) ∧
    ∀ token absent config, Blurred token absent →
      ((Passes env verdict token config → Passes env verdict absent config) ↔
        (Passes env verdict token config → Withstands config absent)) := by
  refine ⟨fun token loose strict h => passes_mono h env verdict token, ?_⟩
  intro token absent config h
  have hsame : Passes env verdict token config →
      (Passes env verdict absent config ↔ Withstands config absent) := by
    intro hpasses
    rw [passes_iff_none] at hpasses ⊢
    obtain ⟨hmeta, honchain, hmarket, hrugcheck, hverdict⟩ := hpasses
    obtain ⟨hmeta', honchain', hmarket'⟩ := h.others env config
    rw [← hmeta', ← honchain', ← hmarket', ← h.rugcheckData_iff config hrugcheck]
    exact ⟨fun h => h.2.2.2.1, fun h => ⟨hmeta, honchain, hmarket, h, hverdict⟩⟩
  exact forall_congr' hsame

/-- A pump token of which the texts of one risk say how much is locked. -/
def pumpToken (locked : String) : Token where
  mint := "mint"
  symbol := "TKN"
  name := "Token"
  decimals := some 9
  imageUrl := none
  dataSource := .unknown
  firstDiscoveredAt := 0
  priceChangeM5 := none
  priceChangeH1 := none
  priceChangeH6 := none
  priceChangeH24 := none
  marketCap := none
  fdv := none
  liquidityUsd := none
  volumeM5 := none
  volumeH1 := none
  volumeH6 := none
  volumeH24 := none
  poolCount := none
  reserveInUsd := none
  txnsM5Buys := none
  txnsM5Sells := none
  txnsH1Buys := none
  txnsH1Sells := none
  websites := []
  mintAuthority := none
  freezeAuthority := none
  updateAuthority := none
  isMutable := none
  securityScore := none
  isRugged := false
  tokenType := some "pumpfun"
  graphInsidersDetected := none
  lpProviderCount := none
  securityRisks := [⟨"LP Locked", locked, "", "info"⟩]
  totalHolders := none
  topHolders := []
  creatorBalancePct := none
  transferFeePct := none
  transferFeeMaxAmount := none
  transferFeeAuthority := none

/-- Only the share of locked liquidity is checked. -/
def lockOnly : FilteringConfig where
  cooldownEnabled := false
  checkCooldown := false
  ageEnabled := false
  minTokenAgeMinutes := 0
  onchain := ⟨false, false, false, false, false, false, false, 0⟩
  dexscreener := ⟨false, false, false, false, false, false, .nan, .nan, false, .nan, .nan, false,
    .nan, .nan, false, 0, 0, false, .nan, .nan, .nan, .nan, false, .nan, .nan, .nan, .nan, .nan,
    .nan, .nan, .nan⟩
  geckoterminal := ⟨false, false, .nan, .nan, false, .nan, .nan, false, .nan, .nan, .nan, false,
    .nan, .nan, .nan, .nan, .nan, .nan, false, 0, 0, .nan⟩
  rugcheck := ⟨true, false, 0, false, false, false, false, false, false, false, .nan, .nan, 0, true,
    .finite 50, .finite 50, false, false, false, 0, false, 0, .nan, false, .nan, false, 0, false,
    .nan, false⟩

/-- **A share that is no number** helps a pump token past the filters. -/
theorem not_passes :
    ¬ ∀ (env : Surroundings) (verdict : Option FilterRejectionReason) (token absent : Token)
        (config : FilteringConfig), Blurred token absent →
      Passes env verdict token config → Passes env verdict absent config := by
  intro h
  let env : Surroundings := ⟨fun _ => false, fun _ => none, fun _ => false, fun _ => false, 0⟩
  have hblurred : Blurred (pumpToken "NaN") (pumpToken "") :=
    .risk (pumpToken "") [] [] ⟨"LP Locked", "NaN", "", "info"⟩ ⟨"LP Locked", "", "", "info"⟩ .nan
      rfl (by decide +kernel) (by decide +kernel) rfl
  have hpasses : Passes env none (pumpToken "NaN") lockOnly := by
    rw [passes_iff_none]
    exact ⟨rfl, rfl, rfl, Option.isNone_iff_eq_none.mp (by decide +kernel), rfl⟩
  have habsent := passes_iff_none.mp (h env none _ _ lockOnly hblurred hpasses)
  have hmissing : (rugcheckData (pumpToken "") lockOnly).isNone = false := by decide +kernel
  rw [habsent.2.2.2.1] at hmissing
  cases hmissing

end Dripline.Filtering
