import Dripline.Pools.Decoders

/-!
# Decoders of constant product pools

`chains/solana/pools/decoders/{raydium_cpmm, fluxbeam_amm, pumpfun_amm, raydium_legacy_amm}.rs`: the
price is the ratio of the vaults.

* `reservePrice` — the ratio, where it is positive and at most a million.
* `RaydiumCpmm`, `FluxbeamAmm`, `PumpFunAmm`, `RaydiumLegacyAmm` — each decoder's
  `decode_and_calculate`, and the accounts that it names for a pool.

A source without a file is in `raydium_legacy_amm.rs` or the file of its section, where a definition
without a comment is the one of its name.
-/

namespace Dripline.Pools

variable {K : Type} [Field K] [LinearOrder K]

/-- Source: the decoders' price of a constant product pool, and its check -/
def reservePrice (solReserve tokenReserve solDecimals tokenDecimals : ℕ) : Option K :=
  let priceSol : K := whole solReserve solDecimals / whole tokenReserve tokenDecimals
  if priceSol ≤ 0 ∨ 1000000 < priceSol then none else some priceSol

variable (cache : Pubkey → Option ℕ) (accounts : Accounts) (baseMint quoteMint : Pubkey)

/-! ## Raydium CPMM, `raydium_cpmm.rs` -/

/-- Source: `raydium_cpmm.rs`, `RaydiumCpmmPoolInfo`, what prices are computed from -/
structure RaydiumCpmmPoolInfo where
  token0Mint : Pubkey
  token1Mint : Pubkey
  token0Vault : Pubkey
  token1Vault : Pubkey
  token0Decimals : ℕ
  token1Decimals : ℕ

namespace RaydiumCpmm

/-- Source: `chains/solana/constants.rs`, `RAYDIUM_CPMM_PROGRAM_ID` -/
def programId : Pubkey :=
  ⟨[169, 42, 90, 139, 79, 41, 89, 82, 132, 37, 80, 170, 147, 253, 91, 149, 181, 172, 230, 168, 235,
    146, 12, 147, 148, 46, 67, 105, 12, 32, 236, 115], rfl⟩

variable (data : List UInt8)

def extractReserveAccounts : Option (List Pubkey) :=
  if data.length < 8 + 32 * 4 then none
  else do
    let token0Vault ← pubkeyAt data 72
    let token1Vault ← pubkeyAt data 104
    some [token0Vault, token1Vault]

/-- The two mints, before their decimals are looked up. Source: `raydium_cpmm.rs`,
`decode_raydium_cpmm_pool` -/
def poolMints : Option (Pubkey × Pubkey) :=
  if data.length < 8 + 32 * 10 + 8 * 10 then none
  else do
    let token0Mint ← pubkeyAt data 168
    let token1Mint ← pubkeyAt data 200
    -- the last field that is read
    let _creatorFeesToken1 ← uintAt data 405 8
    some (token0Mint, token1Mint)

def decodeRaydiumCpmmPool : Option RaydiumCpmmPoolInfo := do
  let mints ← poolMints data
  let token0Vault ← pubkeyAt data 72
  let token1Vault ← pubkeyAt data 104
  let mint0Decimals ← cache mints.1
  let mint1Decimals ← cache mints.2
  some ⟨mints.1, mints.2, token0Vault, token1Vault, mint0Decimals, mint1Decimals⟩

/-- The token that is priced, and whether it is the first. Source: `raydium_cpmm.rs`,
`calculate_raydium_cpmm_price` -/
def target (info : RaydiumCpmmPoolInfo) : Option (Pubkey × Bool) :=
  if info.token0Mint = solMint ∧ info.token1Mint = baseMint then some (baseMint, false)
  else if info.token1Mint = solMint ∧ info.token0Mint = baseMint then some (baseMint, true)
  else if info.token0Mint = solMint ∧ info.token1Mint = quoteMint then some (quoteMint, false)
  else if info.token1Mint = solMint ∧ info.token0Mint = quoteMint then some (quoteMint, true)
  else none

def calculateRaydiumCpmmPrice (info : RaydiumCpmmPoolInfo) : Option (PriceResult K) := do
  let target ← target baseMint quoteMint info
  let vault0Balance ← accounts.balance info.token0Vault
  let vault1Balance ← accounts.balance info.token1Vault
  let solReserve := if target.2 then vault1Balance else vault0Balance
  let tokenReserve := if target.2 then vault0Balance else vault1Balance
  let solDecimals := if target.2 then info.token1Decimals else info.token0Decimals
  let tokenDecimals := if target.2 then info.token0Decimals else info.token1Decimals
  if solReserve = 0 ∨ tokenReserve = 0 then none
  else if 18 < solDecimals ∨ 18 < tokenDecimals then none
  else
    let priceSol ← reservePrice solReserve tokenReserve solDecimals tokenDecimals
    some
      { mint := target.1
        priceSol := priceSol
        confidence := 1
        sourcePool := none
        poolAddress := none
        slot := 0
        solReserves := whole solReserve solDecimals
        tokenReserves := whole tokenReserve tokenDecimals }

def decodeAndCalculate : Option (PriceResult K) := do
  let pool ← accounts.poolAccount programId
  let info ← decodeRaydiumCpmmPool cache pool.data
  calculateRaydiumCpmmPrice accounts baseMint quoteMint info

end RaydiumCpmm

/-! ## FluxBeam, `fluxbeam_amm.rs` -/

structure FluxbeamPoolInfo where
  tokenAMint : Pubkey
  tokenBMint : Pubkey
  tokenAVault : Pubkey
  tokenBVault : Pubkey

namespace FluxbeamAmm

/-- Source: `chains/solana/constants.rs`, `FLUXBEAM_AMM_PROGRAM_ID` -/
def programId : Pubkey :=
  ⟨[213, 0, 200, 171, 63, 250, 208, 168, 107, 171, 95, 83, 101, 49, 198, 221, 94, 98, 176, 98, 109,
    51, 205, 237, 223, 130, 234, 215, 238, 197, 14, 70], rfl⟩

def extractReserveAccounts (data : List UInt8) : Option (List Pubkey) :=
  if data.length ≠ 324 then none
  else do
    let tokenAVault ← pubkeyAt data 35
    let tokenBVault ← pubkeyAt data 67
    some [tokenAVault, tokenBVault]

def parseFluxbeamPool (data : List UInt8) : Option FluxbeamPoolInfo :=
  if data.length ≠ 324 then none
  else do
    let tokenAMint ← pubkeyAt data 131
    let tokenBMint ← pubkeyAt data 163
    let tokenAVault ← pubkeyAt data 35
    let tokenBVault ← pubkeyAt data 67
    some ⟨tokenAMint, tokenBMint, tokenAVault, tokenBVault⟩

/-- Source: `fluxbeam_amm.rs`, `decode_and_calculate`, the orientation -/
def sides (info : FluxbeamPoolInfo) : Option Sides :=
  if isSolMint info.tokenBMint then
    some ⟨info.tokenAMint, info.tokenBVault, info.tokenAVault, true⟩
  else if isSolMint info.tokenAMint then
    some ⟨info.tokenBMint, info.tokenAVault, info.tokenBVault, false⟩
  else none

def decodeAndCalculate : Option (PriceResult K) := do
  let pool ← accounts.poolAccount programId
  let info ← parseFluxbeamPool pool.data
  let sides ← sides info
  if sides.tokenMint ≠ baseMint ∧ sides.tokenMint ≠ quoteMint then none
  else
    let solBalance ← accounts.balance sides.solVault
    let tokenBalance ← accounts.balance sides.tokenVault
    if tokenBalance = 0 then none
    else
      let tokenDecimals ← cache sides.tokenMint
      if decimalsTooLarge tokenDecimals then none
      else
        let priceSol ← reservePrice solBalance tokenBalance solDecimals tokenDecimals
        some
          { mint := sides.tokenMint
            priceSol := priceSol
            confidence := 9 / 10
            sourcePool := some "FLUXBEAM_AMM"
            poolAddress := some pool.pubkey
            slot := 0
            solReserves := whole solBalance solDecimals
            tokenReserves := whole tokenBalance tokenDecimals }

end FluxbeamAmm

/-! ## PumpFun AMM, `pumpfun_amm.rs` -/

/-- Source: `chains/solana/constants.rs` -/
def usdcMint : Pubkey :=
  ⟨[198, 250, 122, 243, 190, 219, 173, 58, 61, 101, 243, 106, 171, 201, 116, 49, 177, 187, 228, 194,
    210, 246, 224, 228, 124, 166, 2, 3, 69, 47, 93, 97], rfl⟩

/-- Source: `chains/solana/constants.rs` -/
def usdtMint : Pubkey :=
  ⟨[206, 1, 14, 96, 175, 237, 178, 39, 23, 189, 99, 25, 47, 84, 20, 90, 63, 150, 90, 51, 187, 130,
    210, 199, 2, 158, 178, 206, 30, 32, 130, 100], rfl⟩

/-- Source: `pools/utils.rs`, `is_stablecoin_mint`; `chains/solana/adapter.rs`, `stable_assets` -/
def isStablecoinMint (mint : Pubkey) : Bool := mint = usdcMint || mint = usdtMint

/-- Source: `pools/types.rs` -/
structure PoolMintVaultInfo where
  mint1 : Pubkey
  mint2 : Pubkey
  vault1 : Pubkey
  vault2 : Pubkey

/-- Nothing where the pair is not of a token and SOL. Source: `pools/utils.rs`,
`analyze_token_pair` -/
def analyzeTokenPair (info : PoolMintVaultInfo) : Option Sides :=
  if isStablecoinMint info.mint1 then none
  else if isStablecoinMint info.mint2 then none
  else if isSolMint info.mint1 then
    if isSolMint info.mint2 then none else some ⟨info.mint2, info.vault1, info.vault2, false⟩
  else if isSolMint info.mint2 then some ⟨info.mint1, info.vault2, info.vault1, true⟩
  else none

namespace PumpFunAmm

/-- Source: `chains/solana/constants.rs`, `PUMP_FUN_AMM_PROGRAM_ID` -/
def programId : Pubkey :=
  ⟨[12, 20, 222, 252, 130, 94, 198, 118, 148, 37, 8, 24, 187, 101, 64, 101, 244, 41, 141, 49, 86,
    213, 113, 180, 212, 248, 9, 12, 24, 233, 168, 99], rfl⟩

variable (data : List UInt8)

def extractPumpfunMintsAndVaults : Option PoolMintVaultInfo :=
  if data.length < 200 then none
  else do
    let mint1 ← pubkeyAt data 43
    let mint2 ← pubkeyAt data 75
    let vault1 ← pubkeyAt data 139
    let vault2 ← pubkeyAt data 171
    some ⟨mint1, mint2, vault1, vault2⟩

/-- Source: `pumpfun_amm.rs`, `extract_reserve_accounts`; `pools/utils.rs`,
`get_analyzer_vault_order` -/
def extractReserveAccounts : Option (List Pubkey) := do
  let info ← extractPumpfunMintsAndVaults data
  let sides ← analyzeTokenPair info
  some [sides.tokenVault, sides.solVault]

/-- Source: `pumpfun_amm.rs`, `decode_pump_fun_amm_pool`; `pools/utils.rs`, `validate_sol_pool` -/
def decodePumpFunAmmPool : Option Sides :=
  (extractPumpfunMintsAndVaults data).bind analyzeTokenPair

/-- The pool as an account of the bundle holds it. Source: `pumpfun_amm.rs`, `decode_and_calculate`,
the loop -/
def poolInfo (account : AccountData) : Option Sides :=
  if account.data.length < 200 then none
  else if account.owner ≠ programId then none
  else decodePumpFunAmmPool account.data

def calculatePumpFunAmmPrice (sides : Sides) (poolAccount : Pubkey) : Option (PriceResult K) := do
  let tokenReserve ← accounts.balance sides.tokenVault
  let solReserve ← accounts.balance sides.solVault
  if tokenReserve = 0 ∨ solReserve = 0 then none
  else
    let tokenDecimals ← cache sides.tokenMint
    if decimalsTooLarge tokenDecimals then none
    else
      let priceSol ← reservePrice solReserve tokenReserve solDecimals tokenDecimals
      some
        { mint := sides.tokenMint
          priceSol := priceSol
          confidence := 9 / 10
          sourcePool := some "PumpFun"
          poolAddress := some poolAccount
          slot := 0
          solReserves := whole solReserve solDecimals
          tokenReserves := whole tokenReserve tokenDecimals }

def decodeAndCalculate : Option (PriceResult K) :=
  accounts.findSome? fun entry =>
    (poolInfo entry.2).bind fun sides => calculatePumpFunAmmPrice cache accounts sides entry.1

end PumpFunAmm

/-! ## Raydium Legacy AMM -/

structure LegacyPoolInfo where
  coinMint : Pubkey
  pcMint : Pubkey
  coinVault : Pubkey
  pcVault : Pubkey

namespace RaydiumLegacyAmm

/-- Source: `chains/solana/constants.rs`, `RAYDIUM_LEGACY_AMM_PROGRAM_ID` -/
def programId : Pubkey :=
  ⟨[75, 217, 73, 196, 54, 2, 195, 63, 32, 119, 144, 237, 22, 163, 82, 76, 161, 185, 151, 92, 241,
    33, 162, 169, 12, 255, 236, 125, 248, 182, 138, 205], rfl⟩

def extractReserveAccounts (data : List UInt8) : Option (List Pubkey) :=
  if data.length < 0x1c0 then none
  else
    let out := [0x150, 0x160, 0x170, 0x180].filterMap (pubkeyAt data)
    if out = [] then none else some out

def parse (data : List UInt8) : Option LegacyPoolInfo :=
  if data.length < 0x1c0 then none
  else do
    let vaultA ← pubkeyAt data 0x150
    let vaultB ← pubkeyAt data 0x160
    let mintA ← pubkeyAt data 0x190
    let mintB ← pubkeyAt data 0x1b0
    some (if mintA = solMint then ⟨mintB, mintA, vaultB, vaultA⟩ else ⟨mintA, mintB, vaultA, vaultB⟩)

/-- The last of the largest accounts. Source: `decode_and_calculate`, `max_by_key` -/
def largest : Option AccountData :=
  (accounts.map Prod.snd).foldl (fun best account =>
    match best with
    | some found => if found.data.length ≤ account.data.length then some account else some found
    | none => some account) none

/-- Whether a vault is missing, or is a token account of another mint. Source: `adjust_vaults` -/
def needsVault (vault mint : Pubkey) : Bool :=
  match accounts.get vault with
  | none => true
  | some account =>
    match tokenAccountMint account.data with
    | some found => decide (found ≠ mint)
    | none => false

/-- The last token account of a mint, or the vault that is there. Source: `adjust_vaults` -/
def vaultOf (vault mint : Pubkey) : Pubkey :=
  accounts.foldl (fun found entry =>
    if 80 ≤ entry.2.data.length ∧ tokenAccountMint entry.2.data = some mint then entry.1 else found)
      vault

def adjustVaults (info : LegacyPoolInfo) : Option LegacyPoolInfo :=
  let needCoin := needsVault accounts info.coinVault info.coinMint
  let needPc := needsVault accounts info.pcVault info.pcMint
  let coinVault := if needCoin then vaultOf accounts info.coinVault info.coinMint else info.coinVault
  let pcVault := if needPc then vaultOf accounts info.pcVault info.pcMint else info.pcVault
  if needCoin = false ∧ needPc = false then none
  else if coinVault = pcVault then none
  else some { info with coinVault := coinVault, pcVault := pcVault }

def extractReservesFromPoolData (data : List UInt8) : Option (ℕ × ℕ) :=
  [(208, 216), (256, 272), (288, 296)].findSome? fun offsets => do
    let reserve1 ← uintAt data offsets.1 8
    let reserve2 ← uintAt data offsets.2 8
    if 10000000 < reserve1 ∧ reserve1 < 1000000000000000 ∧ 10000000 < reserve2 ∧
        reserve2 < 1000000000000000 then
      some (if reserve1 < reserve2 then (reserve1, reserve2) else (reserve2, reserve1))
    else none

/-- The pool, with the vaults that were found for it. Source: `decode_and_calculate` -/
def adjustedPool (pool : AccountData) : Option LegacyPoolInfo :=
  if pool.data.length < 600 then none
  else (parse pool.data).map fun info => (adjustVaults accounts info).getD info

/-- Source: `decode_and_calculate`, the reserves -/
def reserves (data : List UInt8) (info : LegacyPoolInfo) : Option (ℕ × ℕ) :=
  match accounts.balance info.coinVault, accounts.balance info.pcVault with
  | some coin, some pc => some (coin, pc)
  | _, _ => extractReservesFromPoolData data

/-- The token whose decimals are looked up, and whether SOL is the pc. Source:
`decode_and_calculate`, the mapping -/
def tokenSide (info : LegacyPoolInfo) : Option (Pubkey × Bool) :=
  if info.pcMint = solMint then some (info.coinMint, true)
  else if info.coinMint = solMint then some (info.pcMint, false)
  else none

def decodeAndCalculate : Option (PriceResult K) := do
  let pool ← largest accounts
  let info ← adjustedPool accounts pool
  let targetMint :=
    if info.coinMint = baseMint then baseMint
    else if info.coinMint = quoteMint then quoteMint
    else info.coinMint
  let reserves ← reserves accounts pool.data info
  let side ← tokenSide info
  let tokenDecimals ← cache side.1
  let solReserveRaw := if side.2 then reserves.2 else reserves.1
  let tokenReserveRaw := if side.2 then reserves.1 else reserves.2
  if solReserveRaw = 0 ∨ tokenReserveRaw = 0 then none
  else if 18 < tokenDecimals then none
  else
    let priceSol ← reservePrice solReserveRaw tokenReserveRaw solDecimals tokenDecimals
    some
      { mint := targetMint
        priceSol := priceSol
        confidence := 1
        sourcePool := none
        poolAddress := some pool.pubkey
        slot := 0
        solReserves := whole solReserveRaw solDecimals
        tokenReserves := whole tokenReserveRaw tokenDecimals }

end RaydiumLegacyAmm

end Dripline.Pools
