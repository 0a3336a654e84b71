import Dripline.Filtering.Sources

/-!
# Rugcheck filters

`filtering/sources/rugcheck.rs`.

* `RugCheckFilters.NoStricter`, `looser_evaluate` — thresholds that are no stricter reject no more.

A source without a file is in `rugcheck.rs`, where a definition without a comment is the one
of its name.
-/

namespace Dripline.Filtering

open Dripline.Strategies (F64)
open Dripline.Swaps (mentions)

namespace Rugcheck

/-! ## What is locked -/

def extractPercentageFromText (text : String) : Option F64 :=
  (splitWhitespace (String.ofList (text.toList.map fun c => if c = '%' then ' ' else c))).findSome?
    parseF64

def inferPercentageFromKeywords (text : String) : Option F64 :=
  let lower := toAsciiLowercase text
  if mentions lower "unlock" then some (.finite 0)
  else if mentions lower "locked" ∧ ¬mentions lower "unlock" ∧ ¬mentions lower "partial" then
    some (.finite 100)
  else none

def extractPercentageFromRisk (risk : SecurityRisk) : Option F64 :=
  let name := toAsciiLowercase risk.name
  let description := toAsciiLowercase risk.description
  if ¬(mentions name "lp" ∧ mentions name "lock") ∧
      ¬(mentions description "liquidity" ∧ mentions description "lock") then none
  else
    (extractPercentageFromText risk.value).or <|
      (extractPercentageFromText risk.description).or <|
        (inferPercentageFromKeywords risk.value).or (inferPercentageFromKeywords risk.description)

def extractLpLockPercentage (token : Token) : Option F64 :=
  token.securityRisks.findSome? extractPercentageFromRisk

def isPumpfunToken (token : Token) : Bool :=
  token.tokenType.any fun value => mentions (toAsciiLowercase value) "pump"

/-- The share that has to be locked. -/
def requiredLpLock (token : Token) (config : RugCheckFilters) : F64 :=
  if isPumpfunToken token then config.minPumpfunLpLockPct else config.minRegularLpLockPct

def checkLpLock (token : Token) (config : RugCheckFilters) : Option FilterRejectionReason :=
  if config.lpLockEnabled then
    match extractLpLockPercentage token with
    | some lockPct =>
      if less lockPct (requiredLpLock token config) then some .rugcheckLpLockTooLow else none
    | none => if isPumpfunToken token then some .rugcheckLpLockMissing else none
  else none

/-! ## Holders -/

/-- The number of a finite reading. -/
def finitePct : F64 → Option ℚ
  | .finite value => some value
  | .nan | .negInf | .posInf => none

/-- The stakes of holders that are numbers. -/
def pctsOf (holders : List TokenHolder) : List ℚ := holders.filterMap fun holder => finitePct holder.pct

/-- A stake among the three largest. -/
def rank (top : F64 × F64 × F64) (pct : ℚ) : F64 × F64 × F64 :=
  if less top.1 (.finite pct) then (.finite pct, top.1, top.2.1)
  else if less top.2.1 (.finite pct) then (top.1, .finite pct, top.2.1)
  else if less top.2.2 (.finite pct) then (top.1, top.2.1, .finite pct)
  else top

def threeLargestPcts (token : Token) : List F64 :=
  let pcts := pctsOf token.topHolders
  let top := pcts.foldl rank (.negInf, .negInf, .negInf)
  [top.1, top.2.1, top.2.2].take (min pcts.length 3)

def checkHolderDistribution (token : Token) (config : RugCheckFilters) :
    Option FilterRejectionReason :=
  if config.holderDistributionEnabled then
    firstOf [
      if token.totalHolders.any (fun total : ℤ => total < (config.minUniqueHolders : ℤ)) then
        some .rugcheckNotEnoughHolders
      else none,
      if (threeLargestPcts token).head?.any (less config.maxTopHolderPct) then
        some .rugcheckTopHolderTooHigh
      else none,
      if less config.maxTop3HoldersPct (.finite ((threeLargestPcts token).filterMap finitePct).sum) then
        some .rugcheckTop3HoldersTooHigh
      else none]
  else none

/-- The insiders among the first ten holders. -/
def insiderCount (token : Token) : ℕ := (token.topHolders.take 10).countP (·.insider)

def insiderTotalPct (token : Token) : ℚ := (pctsOf (token.topHolders.filter (·.insider))).sum

/-- The checks of insiders. Source: `evaluate` -/
def checkInsiderHolders (token : Token) (config : RugCheckFilters) : Option FilterRejectionReason :=
  if config.insiderHolderChecksEnabled then
    firstOf [
      if config.maxInsiderHoldersInTop10 < insiderCount token then some .rugcheckInsiderHolderCount
      else none,
      if less config.maxInsiderTotalPct (.finite (insiderTotalPct token)) then
        some .rugcheckInsiderTotalPct
      else none]
  else none

/-! ## The source -/

/-- `as i32` of a signed 64-bit number. -/
def asI32 (value : ℤ) : ℤ := value.bmod (2 ^ 32)

/-- The checks of the transfer fee. Source: `evaluate` -/
def checkTransferFee (token : Token) (config : RugCheckFilters) : Option FilterRejectionReason :=
  let feePct := token.transferFeePct.getD (.finite 0)
  if config.transferFeeEnabled then
    firstOf [
      if config.blockTransferFeeTokens ∧ feePct.gt 0 then some .rugcheckTransferFeePresent else none,
      if ¬isFinite feePct ∨ less config.maxTransferFeePct feePct then some .rugcheckTransferFeeTooHigh
      else none]
  else none

/-- The check of the providers of liquidity. Source: `evaluate` -/
def checkLpProviders (token : Token) (config : RugCheckFilters) : Option FilterRejectionReason :=
  if config.lpProvidersEnabled then
    match token.lpProviderCount with
    | some count => if count < config.minLpProviders then some .rugcheckLpProvidersTooLow else none
    | none => some .rugcheckLpProvidersMissing
  else none

/-- The check of a token that was rugged. Source: `evaluate` -/
def checkRugged (token : Token) (config : RugCheckFilters) : Option FilterRejectionReason :=
  if config.ruggedCheckEnabled ∧ config.blockRuggedTokens ∧ token.isRugged then
    some .rugcheckRuggedToken
  else none

/-- The check of the score. Source: `evaluate` -/
def checkRiskScore (token : Token) (config : RugCheckFilters) : Option FilterRejectionReason :=
  if config.riskScoreEnabled ∧ token.securityScore.any (config.maxRiskScore < ·) then
    some .rugcheckRiskScoreTooHigh
  else none

/-- The check of the levels of the risks. Source: `evaluate` -/
def checkRiskLevel (token : Token) (config : RugCheckFilters) : Option FilterRejectionReason :=
  if config.riskLevelEnabled ∧ config.blockDangerLevel ∧
      token.securityRisks.any (eqIgnoreAsciiCase ·.level "danger") then
    some .rugcheckRiskLevelDanger
  else none

/-- The checks of the authorities. Source: `evaluate` -/
def checkAuthorities (token : Token) (config : RugCheckFilters) : Option FilterRejectionReason :=
  if config.authorityChecksEnabled ∧ config.requireAuthoritiesSafe then
    firstOf [
      if config.allowMintAuthority = false ∧ token.mintAuthority.isSome then
        some .rugcheckMintAuthorityBlocked
      else none,
      if config.allowFreezeAuthority = false ∧ token.freezeAuthority.isSome then
        some .rugcheckFreezeAuthorityBlocked
      else none]
  else none

/-- The check of the insiders in the graph. Source: `evaluate` -/
def checkGraphInsiders (token : Token) (config : RugCheckFilters) : Option FilterRejectionReason :=
  if config.graphInsidersEnabled ∧
      token.graphInsidersDetected.any (config.maxGraphInsiders < asI32 ·) then
    some .rugcheckGraphInsidersTooHigh
  else none

/-- The check of the creator's stake. Source: `evaluate` -/
def checkCreatorBalance (token : Token) (config : RugCheckFilters) : Option FilterRejectionReason :=
  if config.creatorBalanceEnabled ∧ token.creatorBalancePct.any
      (fun pct => ¬isFinite pct ∨ less config.maxCreatorBalancePct pct) then
    some .rugcheckCreatorBalanceTooHigh
  else none

def evaluate (token : Token) (config : RugCheckFilters) : Option FilterRejectionReason :=
  if config.enabled then
    firstOf [checkRugged token config, checkRiskScore token config, checkRiskLevel token config,
      checkAuthorities token config, checkHolderDistribution token config,
      checkInsiderHolders token config, checkGraphInsiders token config,
      checkCreatorBalance token config, checkTransferFee token config,
      checkLpProviders token config, checkLpLock token config]
  else none

end Rugcheck

/-! ## Thresholds that are no stricter -/

/-- The same Rugcheck rules are on, with thresholds and flags that reject no more. -/
structure RugCheckFilters.NoStricter (loose strict : RugCheckFilters) : Prop where
  enabled : loose.enabled = strict.enabled
  riskScoreEnabled : loose.riskScoreEnabled = strict.riskScoreEnabled
  maxRiskScore : strict.maxRiskScore ≤ loose.maxRiskScore
  authorityChecksEnabled : loose.authorityChecksEnabled = strict.authorityChecksEnabled
  requireAuthoritiesSafe : Implies loose.requireAuthoritiesSafe strict.requireAuthoritiesSafe
  allowMintAuthority : Implies strict.allowMintAuthority loose.allowMintAuthority
  allowFreezeAuthority : Implies strict.allowFreezeAuthority loose.allowFreezeAuthority
  riskLevelEnabled : loose.riskLevelEnabled = strict.riskLevelEnabled
  blockDangerLevel : Implies loose.blockDangerLevel strict.blockDangerLevel
  holderDistributionEnabled : loose.holderDistributionEnabled = strict.holderDistributionEnabled
  maxTopHolderPct : NoHigher strict.maxTopHolderPct loose.maxTopHolderPct
  maxTop3HoldersPct : NoHigher strict.maxTop3HoldersPct loose.maxTop3HoldersPct
  minUniqueHolders : loose.minUniqueHolders ≤ strict.minUniqueHolders
  lpLockEnabled : loose.lpLockEnabled = strict.lpLockEnabled
  minPumpfunLpLockPct : NoHigher loose.minPumpfunLpLockPct strict.minPumpfunLpLockPct
  minRegularLpLockPct : NoHigher loose.minRegularLpLockPct strict.minRegularLpLockPct
  ruggedCheckEnabled : loose.ruggedCheckEnabled = strict.ruggedCheckEnabled
  blockRuggedTokens : Implies loose.blockRuggedTokens strict.blockRuggedTokens
  graphInsidersEnabled : loose.graphInsidersEnabled = strict.graphInsidersEnabled
  maxGraphInsiders : strict.maxGraphInsiders ≤ loose.maxGraphInsiders
  insiderHolderChecksEnabled : loose.insiderHolderChecksEnabled = strict.insiderHolderChecksEnabled
  maxInsiderHoldersInTop10 : strict.maxInsiderHoldersInTop10 ≤ loose.maxInsiderHoldersInTop10
  maxInsiderTotalPct : NoHigher strict.maxInsiderTotalPct loose.maxInsiderTotalPct
  creatorBalanceEnabled : loose.creatorBalanceEnabled = strict.creatorBalanceEnabled
  maxCreatorBalancePct : NoHigher strict.maxCreatorBalancePct loose.maxCreatorBalancePct
  lpProvidersEnabled : loose.lpProvidersEnabled = strict.lpProvidersEnabled
  minLpProviders : loose.minLpProviders ≤ strict.minLpProviders
  transferFeeEnabled : loose.transferFeeEnabled = strict.transferFeeEnabled
  maxTransferFeePct : NoHigher strict.maxTransferFeePct loose.maxTransferFeePct
  blockTransferFeeTokens : Implies loose.blockTransferFeeTokens strict.blockTransferFeeTokens

namespace Rugcheck

lemma any_imp {α : Type} {value : Option α} {p q : α → Bool}
    (h : ∀ a, p a = true → q a = true) (hany : value.any p = true) : value.any q = true := by
  cases value with
  | none => exact hany
  | some a => exact h a hany

lemma not_allowed {loose strict : Bool} (h : Implies strict loose) (hloose : loose = false) :
    strict = false := by
  cases strict with
  | false => rfl
  | true => exact absurd (h rfl) (by simp [hloose])

variable {loose strict : RugCheckFilters} (h : loose.NoStricter strict) (token : Token)

include h

lemma looser_holderDistribution :
    Looser (checkHolderDistribution token loose) (checkHolderDistribution token strict) := by
  refine looser_if (fun hon => h.holderDistributionEnabled ▸ hon) fun _ => looser_firstOf ?_
  refine .cons (looser_reject (any_imp ?_) _) ?_
  · intro total hlow
    simp only [decide_eq_true_eq] at hlow ⊢
    exact hlow.trans_le (Int.ofNat_le.mpr h.minUniqueHolders)
  refine .cons (looser_reject (any_imp fun _ => less_of_higher h.maxTopHolderPct) _) ?_
  exact .cons (looser_reject (less_of_higher h.maxTop3HoldersPct) _) .nil

lemma looser_insiderHolders :
    Looser (checkInsiderHolders token loose) (checkInsiderHolders token strict) := by
  refine looser_if (fun hon => h.insiderHolderChecksEnabled ▸ hon) fun _ => looser_firstOf ?_
  refine .cons (looser_reject h.maxInsiderHoldersInTop10.trans_lt _) ?_
  exact .cons (looser_reject (less_of_higher h.maxInsiderTotalPct) _) .nil

lemma looser_transferFee :
    Looser (checkTransferFee token loose) (checkTransferFee token strict) := by
  refine looser_if (fun hon => h.transferFeeEnabled ▸ hon) fun _ => looser_firstOf ?_
  refine .cons (looser_reject (And.imp_left h.blockTransferFeeTokens) _) ?_
  exact .cons (looser_reject (Or.imp_right (less_of_higher h.maxTransferFeePct)) _) .nil

lemma looser_lpProviders :
    Looser (checkLpProviders token loose) (checkLpProviders token strict) := by
  refine looser_if (fun hon => h.lpProvidersEnabled ▸ hon) fun _ => ?_
  cases token.lpProviderCount with
  | none => exact .refl _
  | some count => exact looser_reject (fun hlow => hlow.trans_le h.minLpProviders) _

lemma looser_lpLock : Looser (checkLpLock token loose) (checkLpLock token strict) := by
  have hrequired : NoHigher (requiredLpLock token loose) (requiredLpLock token strict) := by
    simp only [requiredLpLock]
    split
    · exact h.minPumpfunLpLockPct
    · exact h.minRegularLpLockPct
  refine looser_if (fun hon => h.lpLockEnabled ▸ hon) fun _ => ?_
  cases extractLpLockPercentage token with
  | none => exact .refl _
  | some lockPct => exact looser_reject (less_of_noHigher hrequired) _

lemma looser_rugged : Looser (checkRugged token loose) (checkRugged token strict) := by
  apply looser_reject
  rintro ⟨hon, hblock, hrugged⟩
  exact ⟨h.ruggedCheckEnabled ▸ hon, h.blockRuggedTokens hblock, hrugged⟩

lemma looser_riskScore : Looser (checkRiskScore token loose) (checkRiskScore token strict) := by
  apply looser_reject
  rintro ⟨hon, hscore⟩
  refine ⟨h.riskScoreEnabled ▸ hon, any_imp ?_ hscore⟩
  intro score hhigh
  simp only [decide_eq_true_eq] at hhigh ⊢
  exact h.maxRiskScore.trans_lt hhigh

lemma looser_riskLevel : Looser (checkRiskLevel token loose) (checkRiskLevel token strict) := by
  apply looser_reject
  rintro ⟨hon, hblock, hdanger⟩
  exact ⟨h.riskLevelEnabled ▸ hon, h.blockDangerLevel hblock, hdanger⟩

lemma looser_authorities :
    Looser (checkAuthorities token loose) (checkAuthorities token strict) := by
  refine looser_if ?_ fun _ => looser_firstOf ?_
  · rintro ⟨hon, hsafe⟩
    exact ⟨h.authorityChecksEnabled ▸ hon, h.requireAuthoritiesSafe hsafe⟩
  refine .cons (looser_reject (And.imp_left (not_allowed h.allowMintAuthority)) _) ?_
  exact .cons (looser_reject (And.imp_left (not_allowed h.allowFreezeAuthority)) _) .nil

lemma looser_graphInsiders :
    Looser (checkGraphInsiders token loose) (checkGraphInsiders token strict) := by
  apply looser_reject
  rintro ⟨hon, hcount⟩
  refine ⟨h.graphInsidersEnabled ▸ hon, any_imp ?_ hcount⟩
  intro count hhigh
  simp only [decide_eq_true_eq] at hhigh ⊢
  exact h.maxGraphInsiders.trans_lt hhigh

lemma looser_creatorBalance :
    Looser (checkCreatorBalance token loose) (checkCreatorBalance token strict) := by
  apply looser_reject
  rintro ⟨hon, hbalance⟩
  refine ⟨h.creatorBalanceEnabled ▸ hon, any_imp ?_ hbalance⟩
  intro pct hhigh
  simp only [decide_eq_true_eq] at hhigh ⊢
  exact hhigh.imp_right (less_of_higher h.maxCreatorBalancePct)

lemma looser_evaluate : Looser (evaluate token loose) (evaluate token strict) := by
  refine looser_if (fun hon => h.enabled ▸ hon) fun _ => looser_firstOf ?_
  refine .cons (looser_rugged h token) (.cons (looser_riskScore h token) ?_)
  refine .cons (looser_riskLevel h token) (.cons (looser_authorities h token) ?_)
  refine .cons (looser_holderDistribution h token) (.cons (looser_insiderHolders h token) ?_)
  refine .cons (looser_graphInsiders h token) (.cons (looser_creatorBalance h token) ?_)
  refine .cons (looser_transferFee h token) (.cons (looser_lpProviders h token) ?_)
  exact .cons (looser_lpLock h token) .nil

end Rugcheck

end Dripline.Filtering
