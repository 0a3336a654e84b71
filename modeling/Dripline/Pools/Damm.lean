import Dripline.Pools.Decoders

/-!
# The DAMM decoder

`chains/solana/pools/decoders/meteora_damm.rs`.

A source without a file is in `meteora_damm.rs`.
-/

namespace Dripline.Pools

/-- Source: `DammPoolInfo`, without the fees, which are only logged -/
structure DammPoolInfo where
  tokenAMint : Pubkey
  tokenBMint : Pubkey
  tokenAVault : Pubkey
  tokenBVault : Pubkey
  sqrtPrice : ℕ
  liquidity : ℕ
  sqrtMinPrice : ℕ
  sqrtMaxPrice : ℕ

namespace MeteoraDamm

variable {K : Type} [Field K] [LinearOrder K]

/-- Source: `chains/solana/constants.rs`, `METEORA_DAMM_PROGRAM_ID` -/
def programId : Pubkey :=
  ⟨[9, 45, 33, 53, 101, 122, 21, 156, 43, 135, 212, 182, 106, 112, 219, 142, 151, 82, 56, 159, 247,
    106, 175, 32, 108, 237, 6, 58, 56, 249, 90, 237], rfl⟩

/-- Source: `extract_u128_at_offset(..).unwrap_or_default()` -/
def u128OrZero (data : List UInt8) (offset : ℕ) : ℕ := (uintAt data offset 16).getD 0

/-- Source: `parse_damm_pool` -/
def parseDammPool (data : List UInt8) : Option DammPoolInfo :=
  if data.length < 1112 then none
  else do
    let tokenAMint ← pubkeyAt data 168
    let tokenBMint ← pubkeyAt data 200
    let tokenAVault ← pubkeyAt data 232
    let tokenBVault ← pubkeyAt data 264
    some
      { tokenAMint := tokenAMint
        tokenBMint := tokenBMint
        tokenAVault := tokenAVault
        tokenBVault := tokenBVault
        liquidity :=
          if 0 < u128OrZero data 296 then u128OrZero data 296
          else if 0 < u128OrZero data 304 then u128OrZero data 304
          else u128OrZero data 320
        sqrtPrice :=
          if 0 < u128OrZero data 456 then u128OrZero data 456
          else if 0 < u128OrZero data 464 then u128OrZero data 464
          else if 0 < u128OrZero data 472 then u128OrZero data 472
          else u128OrZero data 480
        sqrtMinPrice := u128OrZero data 424
        sqrtMaxPrice := u128OrZero data 440 }

/-- Source: `decode_and_calculate`, the orientation -/
def sides (info : DammPoolInfo) : Option Sides :=
  if isSolMint info.tokenBMint then
    some ⟨info.tokenAMint, info.tokenBVault, info.tokenAVault, true⟩
  else if isSolMint info.tokenAMint then
    some ⟨info.tokenBMint, info.tokenAVault, info.tokenBVault, false⟩
  else none

/-! ## The base price -/

/-- With SOL as the first token the scaled price is inverted, not the ratio. Source:
`decode_and_calculate`, `oriented` -/
def orientedPrice (sqrtPrice : ℕ) (tokenFirst : Bool) (tokenDecimals : ℕ) : K :=
  let ratio : K := (sqrtPrice : K) * sqrtPrice / 2 ^ 128
  let adjusted := ratio * 10 ^ ((tokenDecimals : ℤ) - solDecimals)
  if tokenFirst then adjusted
  else if 0 < adjusted then 1 / adjusted else 0

/-- Source: `decode_and_calculate`, `vault_ratio_diag` -/
def vaultRatio (solBalance tokenBalance tokenDecimals : ℕ) : K :=
  if 0 < tokenBalance then whole solBalance solDecimals / whole tokenBalance tokenDecimals else 0

/-- The ratio of the vaults where the price is more than 300 % away from it. Source:
`decode_and_calculate`, `final_oriented` -/
def nearVaults (oriented ratio : K) : K :=
  let diffPct := if 0 < ratio then |oriented - ratio| / ratio * 100 else 0
  if 0 < ratio ∧ 300 < diffPct then ratio else oriented

variable (info : DammPoolInfo)

/-- Source: `decode_and_calculate`, `base_price_sol` -/
def basePriceSol (tokenFirst : Bool) (solBalance tokenBalance tokenDecimals : ℕ) : K :=
  if 0 < info.sqrtPrice then
    nearVaults (orientedPrice info.sqrtPrice tokenFirst tokenDecimals)
      (vaultRatio solBalance tokenBalance tokenDecimals)
  else 0

/-! ## Pools with less than one SOL -/

/-- The place of the price in its range. Source: `decode_and_calculate`, `p` -/
def rangePlace : K :=
  let p : K :=
    if (info.sqrtMinPrice : K) < info.sqrtMaxPrice then
      ((info.sqrtPrice : K) - info.sqrtMinPrice) / (info.sqrtMaxPrice - info.sqrtMinPrice)
    else 0
  if p < 0 then 0 else if 1 < p then 1 else p

/-- Source: `decode_and_calculate`, `price_sol` -/
def dyn2Price (solBalance : ℕ) (basePrice : K) : K :=
  if 0 < info.sqrtPrice ∧ 0 < info.sqrtMinPrice ∧ info.sqrtMinPrice < info.sqrtMaxPrice ∧
      solBalance < 1000000000 ∧ 0 < info.liquidity then
    let p : K := rangePlace info
    let adjustedPrice := basePrice * (p * (1 + 1 / 10 * (1 - p)))
    if 0 < adjustedPrice ∧ 0 < basePrice then
      let scale := adjustedPrice / basePrice
      if 1 / 10 < scale ∧ scale < 9 / 10 then adjustedPrice else basePrice
    else basePrice
  else basePrice

/-- The multiplier where the vaults say much more than the price, between 0.05 and 1.5. Source:
`decode_and_calculate`, `factor` -/
def empiricalFactor (powf : K → K → K) (r : K) : K :=
  let factor := powf r (-3 / 10)
  let factor := if factor < 1 / 20 then 1 / 20 else factor
  if 3 / 2 < factor then 3 / 2 else factor

/-- Source: `decode_and_calculate`, `final_price_sol` -/
def finalPrice (powf : K → K → K) (info : DammPoolInfo) (solBalance : ℕ) (ratio basePrice : K) : K :=
  if solBalance < 1000000000 ∧ 0 < basePrice ∧ 5 < ratio / basePrice then
    basePrice * empiricalFactor powf (ratio / basePrice)
  else dyn2Price info solBalance basePrice

/-- The ratio of the vaults, which the last correction reads; without a price it is never computed.
Source: `decode_and_calculate`, `vault_ratio_diag` -/
def vaultRatioDiag (info : DammPoolInfo) (solBalance tokenBalance tokenDecimals : ℕ) : K :=
  if 0 < info.sqrtPrice then vaultRatio solBalance tokenBalance tokenDecimals else 0

/-- Source: `decode_and_calculate` -/
def decodeAndCalculate (powf : K → K → K) (cache : Pubkey → Option ℕ) (accounts : Accounts)
    (baseMint quoteMint : Pubkey) : Option (PriceResult K) := do
  let pool ← accounts.poolAccount programId
  let info ← parseDammPool pool.data
  let sides ← sides info
  if sides.tokenMint ≠ baseMint ∧ sides.tokenMint ≠ quoteMint then none
  else
    let solBalance ← accounts.balance sides.solVault
    let tokenBalance ← accounts.balance sides.tokenVault
    if tokenBalance = 0 then none
    else
      let tokenDecimals ← cache sides.tokenMint
      if decimalsTooLarge tokenDecimals then none
      else
        let basePrice : K := basePriceSol info sides.tokenFirst solBalance tokenBalance tokenDecimals
        let _ ← positive (dyn2Price info solBalance basePrice)
        some
          { mint := sides.tokenMint
            priceSol :=
              finalPrice powf info solBalance
                (vaultRatioDiag info solBalance tokenBalance tokenDecimals) basePrice
            confidence := 9 / 10
            sourcePool := some "METEORA_DAMM_Q64_CANON"
            poolAddress := some pool.pubkey
            slot := 0
            solReserves := max (whole solBalance solDecimals) 0
            tokenReserves := max (whole tokenBalance tokenDecimals) 0 }

/-! ## How far the corrections go -/

variable [IsStrictOrderedRing K]

/-- The ratio of the vaults instead of a price of more than four times it. -/
def nearer (price ratio : K) : K := if 0 < ratio ∧ 4 * ratio < price then ratio else price

lemma nearVaults_eq {oriented : K} (h : 0 ≤ oriented) (ratio : K) :
    nearVaults oriented ratio = nearer oriented ratio := by
  unfold nearVaults nearer
  by_cases hratio : 0 < ratio
  · have hiff : 300 < |oriented - ratio| / ratio * 100 ↔ 4 * ratio < oriented := by
      rw [← div_lt_iff₀ (by norm_num : (0 : K) < 100), lt_div_iff₀ hratio, lt_abs]
      constructor
      · rintro (hover | hunder)
        · linarith
        · linarith
      · intro hover
        exact .inl (by linarith)
    simp only [hratio, if_true, true_and, hiff]
  · simp [hratio]

lemma orientedPrice_eq (sqrtPrice tokenDecimals : ℕ) (tokenFirst : Bool)
    (h : tokenFirst = true ∨ tokenDecimals = solDecimals) (hpos : 0 < sqrtPrice) :
    (orientedPrice sqrtPrice tokenFirst tokenDecimals : K) =
      (if tokenFirst then ((sqrtPrice : K) / 2 ^ 64) ^ 2 else (((sqrtPrice : K) / 2 ^ 64) ^ 2)⁻¹) *
        10 ^ ((tokenDecimals : ℤ) - solDecimals) := by
  have hratio : (sqrtPrice : K) * sqrtPrice / 2 ^ 128 = ((sqrtPrice : K) / 2 ^ 64) ^ 2 := by ring
  have hsquare : 0 < ((sqrtPrice : K) / 2 ^ 64) ^ 2 := by positivity
  unfold orientedPrice
  rw [hratio]
  cases tokenFirst with
  | true => simp
  | false =>
    obtain rfl : tokenDecimals = solDecimals := by simpa using h
    simp [hsquare]

lemma empiricalFactor_bounds (powf : K → K → K) (r : K) :
    1 / 20 ≤ empiricalFactor powf r ∧ empiricalFactor powf r ≤ 3 / 2 := by
  have hclamped : empiricalFactor powf r = min (max (powf r (-3 / 10)) (1 / 20)) (3 / 2) := by
    unfold empiricalFactor
    rw [max_def_lt, min_comm, min_def_lt]
  rw [hclamped]
  exact ⟨le_min (le_max_right _ _) (by norm_num), min_le_right _ _⟩

lemma dyn2Price_eq (info : DammPoolInfo) (solBalance : ℕ) (basePrice : K) :
    ∃ factor : K, 1 / 20 ≤ factor ∧ factor ≤ 3 / 2 ∧
      dyn2Price info solBalance basePrice = basePrice * factor := by
  have hsame : ∃ factor : K, 1 / 20 ≤ factor ∧ factor ≤ 3 / 2 ∧ basePrice = basePrice * factor :=
    ⟨1, by norm_num, by norm_num, (mul_one _).symm⟩
  unfold dyn2Price
  split
  case isFalse => exact hsame
  case isTrue =>
    dsimp only
    split
    case isFalse => exact hsame
    case isTrue hpos =>
      split
      case isFalse => exact hsame
      case isTrue hscale =>
        rw [mul_div_cancel_left₀ _ hpos.2.ne'] at hscale
        exact ⟨_, by linarith [hscale.1], by linarith [hscale.2], rfl⟩

lemma finalPrice_cases (powf : K → K → K) (info : DammPoolInfo) (solBalance : ℕ)
    (ratio basePrice : K) :
    (1000000000 ≤ solBalance → finalPrice powf info solBalance ratio basePrice = basePrice) ∧
      ∃ factor : K, 1 / 20 ≤ factor ∧ factor ≤ 3 / 2 ∧
        finalPrice powf info solBalance ratio basePrice = basePrice * factor := by
  refine ⟨fun hlarge => ?_, ?_⟩
  · have hnot : ¬ solBalance < 1000000000 := Nat.not_lt.mpr hlarge
    simp [finalPrice, dyn2Price, hnot]
  · unfold finalPrice
    split
    · exact ⟨_, (empiricalFactor_bounds powf _).1, (empiricalFactor_bounds powf _).2, rfl⟩
    · exact dyn2Price_eq info solBalance basePrice

end MeteoraDamm

end Dripline.Pools
