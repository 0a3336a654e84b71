import Dripline.Pools.Decoders

/-!
# Decoders of bonding curves

`chains/solana/pools/decoders/{pumpfun_legacy, moonit_amm, meteora_dbc}.rs`.

* `PumpFunLegacy` — the ratio of the virtual reserves that the curve account holds.
* `Moonit` — from the lamports of the curve account and the tokens left in it.
* `MeteoraDbc` — from the square root price, with SOL found by the mints of the token accounts.

A source without a file is in `pumpfun_legacy.rs` or the file of its section.
-/

namespace Dripline.Pools

variable {K : Type} [Field K] [LinearOrder K]
  (cache : Pubkey → Option ℕ) (accounts : Accounts) (baseMint quoteMint : Pubkey)

/-! ## PumpFun Legacy -/

namespace PumpFunLegacy

/-- Source: `chains/solana/constants.rs`, `PUMP_FUN_LEGACY_PROGRAM_ID` -/
def programId : Pubkey :=
  ⟨[1, 86, 224, 246, 147, 102, 90, 207, 68, 219, 21, 104, 191, 23, 91, 170, 81, 137, 203, 151, 245,
    210, 255, 59, 101, 93, 43, 182, 253, 109, 24, 176], rfl⟩

/-- Source: `BONDING_CURVE_DISCRIMINATOR` -/
def bondingCurveDiscriminator : List UInt8 := [0x17, 0xb7, 0xf8, 0x37, 0x60, 0xd8, 0xac, 0x60]

/-- Source: `decode_and_calculate`, the owner, the size and the discriminator -/
def isBondingCurve (account : AccountData) : Prop :=
  account.owner = programId ∧ 48 ≤ account.data.length ∧
    account.data.take 8 = bondingCurveDiscriminator

instance (account : AccountData) : Decidable (isBondingCurve account) :=
  inferInstanceAs (Decidable (_ ∧ _))

/-- The virtual reserves of the token and of SOL. Source: `calculate_bonding_curve_price` -/
def virtualReserves (data : List UInt8) : Option (ℕ × ℕ) := do
  let virtualTokenReserves ← uintAt data 8 8
  let virtualSolReserves ← uintAt data 16 8
  if virtualTokenReserves = 0 ∨ virtualSolReserves = 0 then none
  else some (virtualTokenReserves, virtualSolReserves)

/-- Source: `calculate_bonding_curve_price` -/
def calculateBondingCurvePrice (data : List UInt8) (tokenMint poolAccount : Pubkey) :
    Option (PriceResult K) := do
  let reserves ← virtualReserves data
  let tokenDecimals ← cache tokenMint
  if 18 < tokenDecimals then none
  else
    let tokenAmount : K := whole reserves.1 tokenDecimals
    let solAmount : K := whole reserves.2 solDecimals
    let priceSol ← positive (solAmount / tokenAmount)
    some
      { mint := tokenMint
        priceSol := priceSol
        confidence := 1
        sourcePool := some "PumpFun Bonding Curve"
        poolAddress := some poolAccount
        slot := 0
        solReserves := solAmount
        tokenReserves := tokenAmount }

/-- The token of a pair with SOL. Source: `decode_and_calculate` -/
def tokenMint : Option Pubkey :=
  if baseMint ≠ solMint ∧ quoteMint ≠ solMint then none
  else some (if baseMint = solMint then quoteMint else baseMint)

/-- Source: `decode_and_calculate` -/
def decodeAndCalculate : Option (PriceResult K) :=
  (tokenMint baseMint quoteMint).bind fun tokenMint =>
    accounts.findSome? fun entry =>
      if isBondingCurve entry.2 then
        calculateBondingCurvePrice cache entry.2.data tokenMint entry.1
      else none

end PumpFunLegacy

/-! ## Moonit, `moonit_amm.rs` -/

/-- Source: `moonit_amm.rs`, `MoonitCurveInfo`, what prices are computed from -/
structure MoonitCurveInfo where
  totalSupply : ℕ
  curveAmount : ℕ
  collateralCurrency : ℕ
  priceIncrease : ℕ

namespace Moonit

/-- Source: `chains/solana/constants.rs`, `MOONIT_AMM_PROGRAM_ID` -/
def programId : Pubkey :=
  ⟨[5, 84, 138, 94, 123, 120, 64, 145, 59, 204, 135, 116, 112, 252, 120, 228, 178, 251, 77, 23, 66,
    24, 209, 174, 202, 229, 235, 188, 234, 75, 195, 217], rfl⟩

def decodeMoonitCurveAccount (data : List UInt8) : Option MoonitCurveInfo :=
  if data.length < 80 then none
  else do
    let totalSupply ← uintAt data 8 8
    let curveAmount ← uintAt data 16 8
    let collateralCurrency ← uintAt data 57 1
    let priceIncrease ← uintAt data 82 2
    some ⟨totalSupply, curveAmount, collateralCurrency, priceIncrease⟩

/-- Source: `moonit_amm.rs`, `calculate_moonit_price`, `price_sol_dynamic` -/
def dynamicPrice (info : MoonitCurveInfo) (solReserves basic : K) (tokenDecimals : ℕ) : K :=
  let soldTokens : K := whole (info.totalSupply - info.curveAmount) tokenDecimals
  let fractionRemaining : K :=
    if 0 < info.totalSupply then (info.curveAmount : K) / info.totalSupply else 0
  let soldFraction := 1 - fractionRemaining
  let kFactor : K := (info.priceIncrease : K) / 168
  if 0 < soldTokens then (2 + kFactor * soldFraction) * solReserves / soldTokens else basic

def calculateMoonitPrice (info : MoonitCurveInfo) (curve : AccountData) : Option (PriceResult K) :=
  if isSolMint quoteMint = false then none
  else if info.collateralCurrency ≠ 0 then none
  else do
    let tokenDecimals ← cache baseMint
    let solReserves : K := whole curve.lamports solDecimals
    let tokenReserves : K := whole info.curveAmount tokenDecimals
    if tokenReserves ≤ 0 then none
    else
      let basic ← positive (solReserves / tokenReserves)
      let dynamic := dynamicPrice info solReserves basic tokenDecimals
      some
        { mint := baseMint
          priceSol := if 0 < dynamic then dynamic else basic
          confidence := 1
          sourcePool := none
          poolAddress := none
          slot := 0
          solReserves := solReserves
          tokenReserves := tokenReserves }

/-- The first account that is large enough. Source: `moonit_amm.rs`, `decode_and_calculate` -/
def curveAccount : Option AccountData :=
  (accounts.map Prod.snd).find? fun account => decide (150 ≤ account.data.length)

def decodeAndCalculate : Option (PriceResult K) := do
  let curve ← curveAccount accounts
  let info ← decodeMoonitCurveAccount curve.data
  calculateMoonitPrice cache baseMint quoteMint info curve

end Moonit

/-! ## Meteora DBC, `meteora_dbc.rs` -/

/-- The token account of SOL, the one of the token, and the token. -/
structure DbcSides where
  solVault : AccountData
  tokenVault : AccountData
  tokenMint : Pubkey

namespace MeteoraDbc

/-- Source: `chains/solana/constants.rs`, `METEORA_DBC_PROGRAM_ID` -/
def programId : Pubkey :=
  ⟨[9, 96, 12, 165, 36, 247, 177, 183, 214, 204, 177, 195, 151, 58, 160, 51, 13, 25, 3, 218, 96, 28,
    201, 181, 222, 227, 198, 98, 180, 202, 209, 73], rfl⟩

/-- How many characters print an address in base 58: one for each zero byte that leads, and the
digits of its number. Source: `meteora_dbc.rs`, `extract_reserve_accounts`, the length of the
text -/
def textLength (key : Pubkey) : ℕ :=
  (key.bytes.takeWhile fun byte => byte = 0).length +
    (Nat.digits 58 (fromLeBytes key.bytes.reverse)).length

def extractReserveAccounts (data : List UInt8) : Option (List Pubkey) :=
  if data.length < 424 then none
  else
    [32, 64, 96, 128, 160, 192].findSome? fun offset => do
      let vault1 ← pubkeyAt data offset
      let vault2 ← pubkeyAt data (offset + 32)
      if vault1 ≠ systemProgramId ∧ vault2 ≠ systemProgramId ∧ textLength vault1 = 44 ∧
          textLength vault2 = 44 then
        some [vault1, vault2]
      else none

def extractSqrtPriceFromPoolData (data : List UInt8) : Option ℕ :=
  if 296 ≤ data.length then uintAt data 280 16
  else
    ((List.range (data.length - 16)).filter fun offset => offset % 8 = 0).findSome? fun offset => do
      let val ← uintAt data offset 16
      if 0 < val ∧ val < 2 ^ 80 then some val else none

/-- The first two token accounts, one of them of SOL. Source: `meteora_dbc.rs`,
`decode_and_calculate` -/
def sides (pool : AccountData) : Option DbcSides :=
  let tokenAccounts := (accounts.map Prod.snd).filter fun account =>
    account.pubkey ≠ pool.pubkey && decide (72 ≤ account.data.length)
  match tokenAccounts with
  | first :: second :: _ => do
    let mintA ← pubkeyAt first.data 0
    let mintB ← pubkeyAt second.data 0
    if mintA = solMint then some ⟨first, second, mintB⟩
    else if mintB = solMint then some ⟨second, first, mintA⟩
    else none
  | _ => none

def decodeAndCalculate : Option (PriceResult K) := do
  let pool ← accounts.poolAccount programId
  let sides ← sides accounts pool
  let sqrtPrice ← extractSqrtPriceFromPoolData pool.data
  let tokenDecimals ← cache sides.tokenMint
  let sqrtPriceF64 : K := (sqrtPrice : K) / 2 ^ 64
  let rawRatio := sqrtPriceF64 * sqrtPriceF64
  let decimalsScale : K := 10 ^ ((solDecimals : ℤ) - tokenDecimals)
  let pricePerToken ← positive (rawRatio / decimalsScale)
  let solBalance ← tokenAccountAmount sides.solVault.data
  let tokenBalance ← tokenAccountAmount sides.tokenVault.data
  if decimalsTooLarge tokenDecimals then none
  else
    some
      { mint := sides.tokenMint
        priceSol := pricePerToken
        confidence := 1
        sourcePool := some "METEORA DBC"
        poolAddress := some pool.pubkey
        slot := min (min sides.solVault.slot sides.tokenVault.slot) pool.slot
        solReserves := whole solBalance solDecimals
        tokenReserves := whole tokenBalance tokenDecimals }

end MeteoraDbc

end Dripline.Pools
