import Dripline.Pools.Layout

/-!
# Pool decoders

`chains/solana/pools/decoders/{raydium_clmm, orca_whirlpool, meteora_dlmm}.rs`. Prices are in an
ordered field; what a division by zero makes infinite in the source is zero here, and rejected as
well.

* `Sides` — which of the two tokens is SOL, and the vaults.
* `ClmmPoolInfo`, `WhirlpoolInfo`, `DlmmPoolInfo` — what the decoders read of a pool account.
* `RaydiumClmm`, `OrcaWhirlpool`, `MeteoraDlmm` — each decoder's `decode_and_calculate`.

A source without a file is in `meteora_dlmm.rs` or the file of its section, where a definition
without a comment is the one of its name.
-/

namespace Dripline.Pools

/-- Source: `pools/types.rs`, `PriceResult`, without the dollar price, which is zero, and the
time -/
structure PriceResult (K : Type) where
  mint : Pubkey
  priceSol : K
  confidence : K
  sourcePool : Option String
  poolAddress : Option Pubkey
  slot : ℕ
  solReserves : K
  tokenReserves : K

/-- The token that is priced, the vaults of SOL and of the token, and whether the token is the first
of the two. -/
structure Sides where
  tokenMint : Pubkey
  solVault : Pubkey
  tokenVault : Pubkey
  tokenFirst : Bool

variable {K : Type} [Field K] [LinearOrder K]

/-- A raw amount in whole tokens. -/
def whole (amount decimals : ℕ) : K := (amount : K) / 10 ^ decimals

/-- Source: `decoders`, the check of each price -/
def positive (price : K) : Option K := if price ≤ 0 then none else some price

/-- Source: `decoders`, the check of each decimals -/
def decimalsTooLarge (tokenDecimals : ℕ) : Prop := 18 < solDecimals ∨ 18 < tokenDecimals

instance (tokenDecimals : ℕ) : Decidable (decimalsTooLarge tokenDecimals) :=
  inferInstanceAs (Decidable (_ ∨ _))

variable (cache : Pubkey → Option ℕ) (accounts : Accounts) (baseMint quoteMint : Pubkey)

/-! ## Raydium CLMM, `raydium_clmm.rs` -/

/-- Source: `raydium_clmm.rs`, `ClmmPoolInfo`, what prices are computed from -/
structure ClmmPoolInfo where
  tokenMint0 : Pubkey
  tokenMint1 : Pubkey
  tokenVault0 : Pubkey
  tokenVault1 : Pubkey
  sqrtPriceX64 : ℕ

namespace RaydiumClmm

/-- Source: `chains/solana/constants.rs`, `RAYDIUM_CLMM_PROGRAM_ID` -/
def programId : Pubkey :=
  ⟨[165, 213, 202, 158, 4, 207, 93, 181, 144, 183, 20, 186, 47, 227, 44, 177, 89, 19, 63, 193, 193, 146,
    183, 34, 87, 253, 7, 211, 156, 176, 64, 30], rfl⟩

def parseClmmPool (data : List UInt8) : Option ClmmPoolInfo :=
  if data.length < 1200 then none
  else do
    let tokenMint0 ← pubkeyAt data 73
    let tokenMint1 ← pubkeyAt data 105
    let tokenVault0 ← pubkeyAt data 137
    let tokenVault1 ← pubkeyAt data 169
    let sqrtPriceX64 ← uintAt data 253 16
    some ⟨tokenMint0, tokenMint1, tokenVault0, tokenVault1, sqrtPriceX64⟩

/-- Source: `raydium_clmm.rs`, `decode_and_calculate`, the orientation -/
def sides (info : ClmmPoolInfo) : Option Sides :=
  if info.tokenMint1 = solMint then
    some ⟨info.tokenMint0, info.tokenVault1, info.tokenVault0, true⟩
  else if info.tokenMint0 = solMint then
    some ⟨info.tokenMint1, info.tokenVault0, info.tokenVault1, false⟩
  else none

/-- Source: `raydium_clmm.rs`, `decode_and_calculate`, the price -/
def priceSol (info : ClmmPoolInfo) (tokenFirst : Bool) (tokenDecimals : ℕ) : K :=
  let sqrtPrice : K := (info.sqrtPriceX64 : K) / 2 ^ 64
  let rawPrice := sqrtPrice * sqrtPrice
  if tokenFirst then rawPrice * 10 ^ ((tokenDecimals : ℤ) - solDecimals)
  else 1 / rawPrice * 10 ^ ((tokenDecimals : ℤ) - solDecimals)

def decodeAndCalculate : Option (PriceResult K) := do
  let pool ← accounts.poolAccount programId
  let info ← parseClmmPool pool.data
  let sides ← sides info
  if sides.tokenMint ≠ baseMint ∧ sides.tokenMint ≠ quoteMint then none
  else
    let solBalance ← accounts.balance sides.solVault
    let tokenBalance ← accounts.balance sides.tokenVault
    let tokenDecimals ← cache sides.tokenMint
    if decimalsTooLarge tokenDecimals then none
    else
      let priceSol ← positive (priceSol info sides.tokenFirst tokenDecimals)
      some
        { mint := sides.tokenMint
          priceSol := priceSol
          confidence := 9 / 10
          sourcePool := some "RAYDIUM_CLMM"
          poolAddress := some pool.pubkey
          slot := 0
          solReserves := whole solBalance solDecimals
          tokenReserves := whole tokenBalance tokenDecimals }

end RaydiumClmm

/-! ## Orca Whirlpool, `orca_whirlpool.rs` -/

structure WhirlpoolInfo where
  tokenMintA : Pubkey
  tokenVaultA : Pubkey
  tokenMintB : Pubkey
  tokenVaultB : Pubkey
  liquidity : ℕ
  sqrtPrice : ℕ

namespace OrcaWhirlpool

/-- Source: `chains/solana/constants.rs`, `ORCA_WHIRLPOOL_PROGRAM_ID` -/
def programId : Pubkey :=
  ⟨[14, 3, 104, 95, 142, 144, 144, 83, 228, 88, 18, 28, 102, 245, 167, 106, 237, 199, 112, 106, 161,
    28, 130, 248, 170, 149, 42, 143, 43, 120, 121, 169], rfl⟩

def parseWhirlpoolData (data : List UInt8) : Option WhirlpoolInfo :=
  if data.length < 653 then none
  else do
    let liquidity ← uintAt data 49 16
    let sqrtPrice ← uintAt data 65 16
    let tokenMintA ← pubkeyAt data 101
    let tokenVaultA ← pubkeyAt data 133
    let tokenMintB ← pubkeyAt data 181
    let tokenVaultB ← pubkeyAt data 213
    some ⟨tokenMintA, tokenVaultA, tokenMintB, tokenVaultB, liquidity, sqrtPrice⟩

/-- Source: `orca_whirlpool.rs`, `decode_and_calculate`, the orientation -/
def sides (info : WhirlpoolInfo) : Option Sides :=
  if info.tokenMintA = solMint then
    some ⟨info.tokenMintB, info.tokenVaultA, info.tokenVaultB, false⟩
  else if info.tokenMintB = solMint then
    some ⟨info.tokenMintA, info.tokenVaultB, info.tokenVaultA, true⟩
  else none

/-- The decimals are checked only where SOL is the first token. Source: `orca_whirlpool.rs`,
`decode_and_calculate`, the price -/
def priceSol (info : WhirlpoolInfo) (tokenFirst : Bool) (tokenDecimals : ℕ) : Option K :=
  let sqrtPriceNormalized : K := (info.sqrtPrice : K) / 18446744073709551616
  if tokenFirst then
    some (sqrtPriceNormalized ^ 2 * 10 ^ ((tokenDecimals : ℤ) - solDecimals))
  else if decimalsTooLarge tokenDecimals then none
  else some (1 / (sqrtPriceNormalized ^ 2 * 10 ^ ((solDecimals : ℤ) - tokenDecimals)))

def decodeAndCalculate : Option (PriceResult K) := do
  let pool ← accounts.poolAccount programId
  let info ← parseWhirlpoolData pool.data
  let sides ← sides info
  let solReserve ← accounts.balance sides.solVault
  let tokenReserve ← accounts.balance sides.tokenVault
  if solReserve = 0 ∨ tokenReserve = 0 then none
  else
    let tokenDecimals ← cache sides.tokenMint
    let price ← priceSol info sides.tokenFirst tokenDecimals
    let priceSol ← positive price
    some
      { mint := sides.tokenMint
        priceSol := priceSol
        confidence := 1
        sourcePool := none
        poolAddress := none
        slot := 0
        solReserves := solReserve
        tokenReserves := tokenReserve }

end OrcaWhirlpool

/-! ## Meteora DLMM -/

structure DlmmPoolInfo where
  tokenXMint : Pubkey
  tokenYMint : Pubkey
  reserveX : Pubkey
  reserveY : Pubkey
  activeId : ℤ
  binStep : ℕ

namespace MeteoraDlmm

/-- Source: `chains/solana/constants.rs`, `METEORA_DLMM_PROGRAM_ID` -/
def programId : Pubkey :=
  ⟨[4, 233, 225, 47, 188, 132, 232, 38, 201, 50, 204, 233, 226, 100, 12, 206, 21, 89, 12, 28, 98,
    115, 176, 146, 87, 8, 186, 59, 133, 32, 176, 188], rfl⟩

def parseDlmmPool (data : List UInt8) : Option DlmmPoolInfo :=
  if data.length < 216 then none
  else do
    let tokenXMint ← pubkeyAt data 88
    let tokenYMint ← pubkeyAt data 120
    let reserveX ← pubkeyAt data 152
    let reserveY ← pubkeyAt data 184
    let activeId ← intAt data 76 4
    let binStep ← uintAt data 80 2
    some ⟨tokenXMint, tokenYMint, reserveX, reserveY, activeId, binStep⟩

/-- Source: `decode_and_calculate`, the orientation -/
def sides (info : DlmmPoolInfo) : Option Sides :=
  if isSolMint info.tokenYMint then
    some ⟨info.tokenXMint, info.reserveY, info.reserveX, true⟩
  else if isSolMint info.tokenXMint then
    some ⟨info.tokenYMint, info.reserveX, info.reserveY, false⟩
  else none

/-- Source: `calculate_dlmm_price`, the decimals of a token -/
def decimals (mint : Pubkey) : ℕ := if mint = solMint then solDecimals else (cache mint).getD 6

def calculateDlmmPrice (info : DlmmPoolInfo) (tokenMint : Pubkey) : Option K :=
  let binStepFactor : K := 1 + (info.binStep : K) / 10000
  let rawPrice := binStepFactor ^ info.activeId
  let decimalsScale : K :=
    10 ^ ((decimals cache info.tokenXMint : ℤ) - decimals cache info.tokenYMint)
  let adjustedPrice := rawPrice * decimalsScale
  if info.tokenXMint = tokenMint then some adjustedPrice
  else if info.tokenYMint = tokenMint then
    if adjustedPrice ≠ 0 then some (1 / adjustedPrice) else none
  else none

/-- The vaults hold what they are taken for, as far as their mints can be read. Source:
`decode_and_calculate`, the vault verification -/
def vaultsVerified (sides : Sides) : Bool :=
  match (accounts.get sides.solVault).bind fun account => tokenAccountMint account.data,
      (accounts.get sides.tokenVault).bind fun account => tokenAccountMint account.data with
  | some solVaultMint, some tokenVaultMint =>
    isSolMint solVaultMint && decide (tokenVaultMint = sides.tokenMint)
  | _, _ => true

def decodeAndCalculate : Option (PriceResult K) := do
  let pool ← accounts.poolAccount programId
  let info ← parseDlmmPool pool.data
  let sides ← sides info
  if sides.tokenMint ≠ baseMint ∧ sides.tokenMint ≠ quoteMint then none
  else
    let solBalance ← accounts.balance sides.solVault
    let tokenBalance ← accounts.balance sides.tokenVault
    if vaultsVerified accounts sides = false ∨ tokenBalance = 0 then none
    else
      let tokenDecimals ← cache sides.tokenMint
      let price ← calculateDlmmPrice cache info sides.tokenMint
      if decimalsTooLarge tokenDecimals then none
      else
        let priceSol ← positive price
        some
          { mint := sides.tokenMint
            priceSol := priceSol
            confidence := 9 / 10
            sourcePool := some "METEORA DLMM"
            poolAddress := some pool.pubkey
            slot := pool.slot
            solReserves := whole solBalance solDecimals
            tokenReserves := whole tokenBalance tokenDecimals }

end MeteoraDlmm

end Dripline.Pools
