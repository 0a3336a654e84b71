import Dripline.Pools.Curves

/-!
# Pools as the venues read them

`swaps/direct/venues/{raydium_cpmm, raydium_amm_v4, pumpfun_amm, fluxbeam, meteora_dbc,
pumpfun_legacy, moonit}.rs`, what a quote starts from.

* `CpmmPoolState`, `AmmV4PoolState`, `PumpAmmPoolState`, `FluxbeamPoolState`, `VirtualPoolState` —
  pools with two vaults.
* `BondingCurve`, `CurveAccountState` — curves, whose reserves are in their own account.
-/

namespace Dripline.Pools

/-! ## Pools with vaults -/

/-- Source: `venues/raydium_cpmm.rs`, `CpmmPoolState`, the reserves and what they are of -/
structure CpmmPoolState where
  vault0 : Pubkey
  vault1 : Pubkey
  mint0 : Pubkey
  mint1 : Pubkey
  decimals0 : ℕ
  decimals1 : ℕ
  protocolFees0 : ℕ
  protocolFees1 : ℕ
  fundFees0 : ℕ
  fundFees1 : ℕ
  creatorFees0 : ℕ
  creatorFees1 : ℕ

/-- Source: `venues/raydium_cpmm.rs` -/
def CpmmPoolState.decode (data : List UInt8) : Option CpmmPoolState := do
  let vault0 ← pubkeyAt data 72
  let vault1 ← pubkeyAt data 104
  let mint0 ← pubkeyAt data 168
  let mint1 ← pubkeyAt data 200
  let decimals0 ← uintAt data 331 1
  let decimals1 ← uintAt data 332 1
  let protocolFees0 ← uintAt data 341 8
  let protocolFees1 ← uintAt data 349 8
  let fundFees0 ← uintAt data 357 8
  let fundFees1 ← uintAt data 365 8
  let creatorFees0 ← uintAt data 397 8
  let creatorFees1 ← uintAt data 405 8
  some
    { vault0, vault1, mint0, mint1, decimals0, decimals1, protocolFees0, protocolFees1, fundFees0,
      fundFees1, creatorFees0, creatorFees1 }

/-- Where the venue reads its fields. -/
structure CpmmPoolState.Reads (data : List UInt8) (state : CpmmPoolState) : Prop where
  vault0 : pubkeyAt data 72 = some state.vault0
  vault1 : pubkeyAt data 104 = some state.vault1
  mint0 : pubkeyAt data 168 = some state.mint0
  mint1 : pubkeyAt data 200 = some state.mint1
  decimals0 : uintAt data 331 1 = some state.decimals0
  decimals1 : uintAt data 332 1 = some state.decimals1
  protocolFees0 : uintAt data 341 8 = some state.protocolFees0
  protocolFees1 : uintAt data 349 8 = some state.protocolFees1
  fundFees0 : uintAt data 357 8 = some state.fundFees0
  fundFees1 : uintAt data 365 8 = some state.fundFees1
  creatorFees0 : uintAt data 397 8 = some state.creatorFees0
  creatorFees1 : uintAt data 405 8 = some state.creatorFees1

variable {data : List UInt8}

lemma CpmmPoolState.reads {state : CpmmPoolState} (h : CpmmPoolState.decode data = some state) :
    state.Reads data := by
  simp only [CpmmPoolState.decode, Option.bind_eq_bind, Option.bind_eq_some_iff, Option.some.injEq] at h
  obtain ⟨vault0, hvault0, vault1, hvault1, mint0, hmint0, mint1, hmint1, decimals0, hdecimals0,
    decimals1, hdecimals1, protocolFees0, hprotocol0, protocolFees1, hprotocol1, fundFees0, hfund0,
    fundFees1, hfund1, creatorFees0, hcreator0, creatorFees1, hcreator1, rfl⟩ := h
  exact ⟨hvault0, hvault1, hmint0, hmint1, hdecimals0, hdecimals1, hprotocol0, hprotocol1, hfund0,
    hfund1, hcreator0, hcreator1⟩

/-- Source: `venues/raydium_amm_v4.rs`, `AmmV4PoolState`, the reserves and what they are of -/
structure AmmV4PoolState where
  coinDecimals : ℕ
  pcDecimals : ℕ
  needTakePnlCoin : ℕ
  needTakePnlPc : ℕ
  coinVault : Pubkey
  pcVault : Pubkey
  coinMint : Pubkey
  pcMint : Pubkey

/-- Source: `venues/raydium_amm_v4.rs` -/
def AmmV4PoolState.decode (data : List UInt8) : Option AmmV4PoolState := do
  let coinDecimals ← uintAt data 32 8
  let pcDecimals ← uintAt data 40 8
  let needTakePnlCoin ← uintAt data 192 8
  let needTakePnlPc ← uintAt data 200 8
  let coinVault ← pubkeyAt data 336
  let pcVault ← pubkeyAt data 368
  let coinMint ← pubkeyAt data 400
  let pcMint ← pubkeyAt data 432
  -- the last field that is read
  let _targetOrders ← pubkeyAt data 592
  some
    { coinDecimals := min coinDecimals 255
      pcDecimals := min pcDecimals 255
      needTakePnlCoin, needTakePnlPc, coinVault, pcVault, coinMint, pcMint }

/-- Where the venue reads its fields. -/
structure AmmV4PoolState.Reads (data : List UInt8) (state : AmmV4PoolState) : Prop where
  needTakePnlCoin : uintAt data 192 8 = some state.needTakePnlCoin
  needTakePnlPc : uintAt data 200 8 = some state.needTakePnlPc
  coinVault : pubkeyAt data 336 = some state.coinVault
  pcVault : pubkeyAt data 368 = some state.pcVault
  coinMint : pubkeyAt data 400 = some state.coinMint
  pcMint : pubkeyAt data 432 = some state.pcMint

lemma AmmV4PoolState.reads {state : AmmV4PoolState} (h : AmmV4PoolState.decode data = some state) :
    state.Reads data := by
  simp only [AmmV4PoolState.decode, Option.bind_eq_bind, Option.bind_eq_some_iff,
    Option.some.injEq] at h
  obtain ⟨coinDecimals, -, pcDecimals, -, needTakePnlCoin, hcoinPnl, needTakePnlPc, hpcPnl,
    coinVault, hcoinVault, pcVault, hpcVault, coinMint, hcoinMint, pcMint, hpcMint, -, -, rfl⟩ := h
  exact ⟨hcoinPnl, hpcPnl, hcoinVault, hpcVault, hcoinMint, hpcMint⟩

/-- Source: `venues/pumpfun_amm.rs`, `PumpAmmPoolState`, the reserves and what they are of -/
structure PumpAmmPoolState where
  baseMint : Pubkey
  quoteMint : Pubkey
  baseTokenAccount : Pubkey
  quoteTokenAccount : Pubkey
  virtualQuoteReserves : ℕ

/-- Source: `venues/pumpfun_amm.rs` -/
def PumpAmmPoolState.decode (data : List UInt8) : Option PumpAmmPoolState := do
  let baseMint ← pubkeyAt data 43
  let quoteMint ← pubkeyAt data 75
  let baseTokenAccount ← pubkeyAt data 139
  let quoteTokenAccount ← pubkeyAt data 171
  let virtualQuoteReserves ← uintAt data 245 8
  some ⟨baseMint, quoteMint, baseTokenAccount, quoteTokenAccount, virtualQuoteReserves⟩

/-- Where the venue reads its fields. -/
structure PumpAmmPoolState.Reads (data : List UInt8) (state : PumpAmmPoolState) : Prop where
  baseMint : pubkeyAt data 43 = some state.baseMint
  quoteMint : pubkeyAt data 75 = some state.quoteMint
  baseTokenAccount : pubkeyAt data 139 = some state.baseTokenAccount
  quoteTokenAccount : pubkeyAt data 171 = some state.quoteTokenAccount
  virtualQuoteReserves : uintAt data 245 8 = some state.virtualQuoteReserves

lemma PumpAmmPoolState.reads {state : PumpAmmPoolState}
    (h : PumpAmmPoolState.decode data = some state) : state.Reads data := by
  simp only [PumpAmmPoolState.decode, Option.bind_eq_bind, Option.bind_eq_some_iff,
    Option.some.injEq] at h
  obtain ⟨baseMint, hbaseMint, quoteMint, hquoteMint, baseTokenAccount, hbase, quoteTokenAccount,
    hquote, virtualQuoteReserves, hvirtual, rfl⟩ := h
  exact ⟨hbaseMint, hquoteMint, hbase, hquote, hvirtual⟩

/-- Source: `venues/fluxbeam.rs`, `FluxbeamPoolState`, the vaults and what they are of -/
structure FluxbeamPoolState where
  vaultA : Pubkey
  vaultB : Pubkey
  mintA : Pubkey
  mintB : Pubkey

/-- Source: `venues/fluxbeam.rs` -/
def FluxbeamPoolState.decode (data : List UInt8) : Option FluxbeamPoolState :=
  if data.length ≠ 324 then none
  else do
    let vaultA ← pubkeyAt data 35
    let vaultB ← pubkeyAt data 67
    let mintA ← pubkeyAt data 131
    let mintB ← pubkeyAt data 163
    some ⟨vaultA, vaultB, mintA, mintB⟩

/-- Source: `venues/meteora_dbc.rs` -/
def virtualPoolDiscriminator : List UInt8 := [213, 224, 5, 209, 98, 69, 119, 92]

/-- Source: `venues/meteora_dbc.rs`, `VirtualPoolState`, the vaults and what they are of -/
structure VirtualPoolState where
  baseMint : Pubkey
  baseVault : Pubkey
  quoteVault : Pubkey

/-- Source: `venues/meteora_dbc.rs` -/
def VirtualPoolState.decode (data : List UInt8) : Option VirtualPoolState :=
  if data.length < 306 ∨ data.take 8 ≠ virtualPoolDiscriminator then none
  else do
    let baseMint ← pubkeyAt data 136
    let baseVault ← pubkeyAt data 168
    let quoteVault ← pubkeyAt data 200
    some ⟨baseMint, baseVault, quoteVault⟩

/-! ## Curves -/

/-- Source: `venues/pumpfun_legacy.rs`, `BondingCurve`, the reserves -/
structure BondingCurve where
  virtualTokenReserves : ℕ
  virtualSolReserves : ℕ

/-- Source: `venues/pumpfun_legacy.rs` -/
def BondingCurve.decode (data : List UInt8) : Option BondingCurve :=
  if data.length < 115 ∨ data.take 8 ≠ PumpFunLegacy.bondingCurveDiscriminator then none
  else do
    let virtualTokenReserves ← uintAt data 8 8
    let virtualSolReserves ← uintAt data 16 8
    some ⟨virtualTokenReserves, virtualSolReserves⟩

/-- Source: `venues/moonit.rs` -/
structure CurveAccountState where
  totalSupply : ℕ
  curveAmount : ℕ
  mint : Pubkey
  decimals : ℕ
  collateralCurrency : ℕ
  curveType : ℕ

/-- Source: `venues/moonit.rs` -/
def CurveAccountState.decode (data : List UInt8) : Option CurveAccountState :=
  if data.length < 82 then none
  else do
    let totalSupply ← uintAt data 8 8
    let curveAmount ← uintAt data 16 8
    let mint ← pubkeyAt data 24
    let decimals ← uintAt data 56 1
    let collateralCurrency ← uintAt data 57 1
    let curveType ← uintAt data 58 1
    some ⟨totalSupply, curveAmount, mint, decimals, collateralCurrency, curveType⟩

end Dripline.Pools
