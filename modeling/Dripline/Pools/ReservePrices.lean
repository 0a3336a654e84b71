import Dripline.Pools.Amms
import Dripline.Pools.PoolStates
import Dripline.Pools.Prices

/-!
# Monitored prices and the reserves of a venue

`chains/solana/pools/decoders/{raydium_cpmm, raydium_legacy_amm, pumpfun_amm, pumpfun_legacy,
moonit_amm}.rs` against `swaps/direct/venues/{raydium_cpmm, raydium_amm_v4, pumpfun_amm,
pumpfun_legacy, moonit}.rs`.

* `monitoredAsQuoted_iff` — exactly when it is.
-/

namespace Dripline.Pools

open Option

/-- The pools that are priced from their reserves. -/
inductive ReserveKind where
  | raydiumCpmm | raydiumLegacyAmm | pumpFunAmm | pumpFunLegacy | moonit

/-- Source: `tokens/decimals.rs` -/
def getCached (stored : Pubkey → Option ℕ) (mint : Pubkey) : Option ℕ :=
  if isSolMint mint then some solDecimals else stored mint

@[simp] lemma getCached_solMint (stored : Pubkey → Option ℕ) :
    getCached stored solMint = some solDecimals := by
  simp [getCached]

/-! ## The reserves of a venue -/

/-- Source: `venues/raydium_cpmm.rs` -/
def CpmmPoolState.reserves (state : CpmmPoolState) (vault0Balance vault1Balance : ℕ) : ℕ × ℕ :=
  (vault0Balance - state.protocolFees0 - state.fundFees0 - state.creatorFees0,
    vault1Balance - state.protocolFees1 - state.fundFees1 - state.creatorFees1)

/-- Source: `venues/raydium_amm_v4.rs` -/
def AmmV4PoolState.reserves (state : AmmV4PoolState) (coinBalance pcBalance : ℕ) : ℕ × ℕ :=
  (coinBalance - state.needTakePnlCoin, pcBalance - state.needTakePnlPc)

/-- Source: `venues/pumpfun_amm.rs` -/
def PumpAmmPoolState.effectiveQuoteReserve (state : PumpAmmPoolState) (quoteReserve : ℕ) : ℕ :=
  min (quoteReserve + state.virtualQuoteReserves) (2 ^ 64 - 1)

/-- Source: `venues/moonit.rs` -/
def initialVirtualTokenReserves : ℕ := 1073000000000000000

/-- Source: `venues/moonit.rs` -/
def initialVirtualCollateralReserves : ℕ := 30000000000

/-- The token, and SOL. Source: `venues/moonit.rs` -/
def currentReserves (curvePosition : ℕ) : Option (ℕ × ℕ) :=
  if curvePosition < initialVirtualTokenReserves then
    let vtr := initialVirtualTokenReserves - curvePosition
    some (vtr, initialVirtualTokenReserves * initialVirtualCollateralReserves / vtr)
  else none

/-- Source: `venues/moonit.rs`, `load`, the curves that it trades -/
def CurveAccountState.Tradable (curve : CurveAccountState) : Prop :=
  curve.curveType = 1 ∧ curve.collateralCurrency = 0 ∧ curve.curveAmount ≤ curve.totalSupply ∧
    curve.totalSupply < initialVirtualTokenReserves

instance (curve : CurveAccountState) : Decidable curve.Tradable :=
  inferInstanceAs (Decidable (_ ∧ _ ∧ _ ∧ _))

/-- What stands on the side of SOL, and on the side of the token. -/
def solFirst {α : Type} (mint0 mint1 : Pubkey) (side0 side1 : α) : Option (α × α) :=
  if isSolMint mint0 then if isSolMint mint1 then none else some (side0, side1)
  else if isSolMint mint1 then some (side1, side0)
  else none

/-- What an account of the chain holds of its token. -/
def chainBalance (chain : Pubkey → Option AccountData) (vault : Pubkey) : Option ℕ :=
  (chain vault).bind fun account => tokenAccountAmount account.data

/-- SOL and the token that a venue quotes from. Source: `swaps/direct/venues`, `load` and `quote` -/
def loadedReserves (chain : Pubkey → Option AccountData) (data : List UInt8) :
    ReserveKind → Option (ℕ × ℕ)
  | .raydiumCpmm => do
    let state ← CpmmPoolState.decode data
    let vault0Balance ← chainBalance chain state.vault0
    let vault1Balance ← chainBalance chain state.vault1
    let reserves := state.reserves vault0Balance vault1Balance
    solFirst state.mint0 state.mint1 reserves.1 reserves.2
  | .raydiumLegacyAmm => do
    let state ← AmmV4PoolState.decode data
    let coinBalance ← chainBalance chain state.coinVault
    let pcBalance ← chainBalance chain state.pcVault
    let reserves := state.reserves coinBalance pcBalance
    solFirst state.coinMint state.pcMint reserves.1 reserves.2
  | .pumpFunAmm => do
    let state ← PumpAmmPoolState.decode data
    let baseReserve ← chainBalance chain state.baseTokenAccount
    let quoteReserve ← chainBalance chain state.quoteTokenAccount
    if baseReserve = 0 ∨ quoteReserve = 0 then none
    else
      solFirst state.baseMint state.quoteMint baseReserve (state.effectiveQuoteReserve quoteReserve)
  | .pumpFunLegacy => do
    let curve ← BondingCurve.decode data
    some (curve.virtualSolReserves, curve.virtualTokenReserves)
  | .moonit => do
    let curve ← CurveAccountState.decode data
    if curve.Tradable then
      let reserves ← currentReserves (curve.totalSupply - curve.curveAmount)
      some reserves.swap
    else none

/-- No quote where a side is empty. Source: `swaps/direct/venues`, `quote` -/
def venueReserves (kind : ReserveKind) (chain : Pubkey → Option AccountData) (pool : Pubkey) :
    Option (ℕ × ℕ) := do
  let account ← chain pool
  let reserves ← loadedReserves chain account.data kind
  if reserves.1 = 0 ∨ reserves.2 = 0 then none else some reserves

/-! ## What a decoder finds -/

/-- Accounts that were read from the chain. -/
def Fetched (chain : Pubkey → Option AccountData) (accounts : Accounts) : Prop :=
  ∀ entry ∈ accounts, chain entry.1 = some entry.2

variable {K : Type} [Field K] [LinearOrder K]
  (cache : Pubkey → Option ℕ) (accounts : Accounts) (baseMint quoteMint : Pubkey)

/-- Source: the decoders' `decode_and_calculate` -/
def decodeReserves : ReserveKind → Option (PriceResult K)
  | .raydiumCpmm => RaydiumCpmm.decodeAndCalculate cache accounts baseMint quoteMint
  | .raydiumLegacyAmm => RaydiumLegacyAmm.decodeAndCalculate cache accounts baseMint quoteMint
  | .pumpFunAmm => PumpFunAmm.decodeAndCalculate cache accounts
  | .pumpFunLegacy => PumpFunLegacy.decodeAndCalculate cache accounts baseMint quoteMint
  | .moonit => Moonit.decodeAndCalculate cache accounts baseMint quoteMint

/-- A price can be computed from an account of a Pump.fun AMM. -/
def pricesPumpFunAmm (entry : Pubkey × AccountData) : Option (PriceResult K) :=
  (PumpFunAmm.poolInfo entry.2).bind fun sides =>
    PumpFunAmm.calculatePumpFunAmmPrice cache accounts sides entry.1

/-- A price can be computed from an account of a Pump.fun curve. -/
def pricesPumpFunLegacy (entry : Pubkey × AccountData) : Option (PriceResult K) :=
  (PumpFunLegacy.tokenMint baseMint quoteMint).bind fun tokenMint =>
    if PumpFunLegacy.isBondingCurve entry.2 then
      PumpFunLegacy.calculateBondingCurvePrice cache entry.2.data tokenMint entry.1
    else none

variable (K) in
/-- The account that a decoder takes for the pool: the first of the program, the longest, the first
that has a price, or the first that is long enough. -/
def picked : ReserveKind → Option AccountData
  | .raydiumCpmm => accounts.poolAccount RaydiumCpmm.programId
  | .raydiumLegacyAmm => RaydiumLegacyAmm.largest accounts
  | .pumpFunAmm =>
    (accounts.find? fun entry => (pricesPumpFunAmm cache accounts entry :
      Option (PriceResult K)).isSome).map
      Prod.snd
  | .pumpFunLegacy =>
    (accounts.find? fun entry =>
      (pricesPumpFunLegacy cache baseMint quoteMint entry : Option (PriceResult K)).isSome).map
        Prod.snd
  | .moonit => Moonit.curveAccount accounts

/-- The calibrated formula as two amounts: their ratio, in raw units, is the price. -/
def Moonit.amounts (info : MoonitCurveInfo) (lamports : ℕ) : ℕ × ℕ :=
  let sold := info.totalSupply - info.curveAmount
  if sold = 0 then (lamports, info.curveAmount)
  else
    ((336 * info.totalSupply + info.priceIncrease * sold) * lamports, 168 * info.totalSupply * sold)

/-- SOL and the token that a decoder divides, from the account that it takes for the pool. -/
def found (account : AccountData) : ReserveKind → Option (ℕ × ℕ)
  | .raydiumCpmm => do
    let info ← RaydiumCpmm.decodeRaydiumCpmmPool cache account.data
    let balance0 ← accounts.balance info.token0Vault
    let balance1 ← accounts.balance info.token1Vault
    if info.token0Mint = solMint then some (balance0, balance1)
    else if info.token1Mint = solMint then some (balance1, balance0)
    else none
  | .raydiumLegacyAmm => do
    let info ← RaydiumLegacyAmm.adjustedPool accounts account
    (RaydiumLegacyAmm.reserves accounts account.data info).map Prod.swap
  | .pumpFunAmm => do
    let sides ← PumpFunAmm.poolInfo account
    let tokenReserve ← accounts.balance sides.tokenVault
    let solReserve ← accounts.balance sides.solVault
    some (solReserve, tokenReserve)
  | .pumpFunLegacy => (PumpFunLegacy.virtualReserves account.data).map Prod.swap
  | .moonit => do
    let info ← Moonit.decodeMoonitCurveAccount account.data
    some (Moonit.amounts info account.lamports)

/-! ## Prices as quoted -/

/-- The decoder divides the balances of the pool's own vaults; only the one of AMM v4 looks for
others.
Source: `raydium_legacy_amm.rs`, `decode_and_calculate` -/
def TakesVaults (account : AccountData) (kind : ReserveKind) : Prop :=
  kind = .raydiumLegacyAmm → ∃ state info,
    AmmV4PoolState.decode account.data = some state ∧
      RaydiumLegacyAmm.adjustedPool accounts account = some info ∧
        solFirst state.coinMint state.pcMint state.coinVault state.pcVault =
          some (info.pcVault, info.coinVault) ∧
        (accounts.balance info.coinVault).isSome ∧ (accounts.balance info.pcVault).isSome

/-- What the venue leaves out of the balances is in proportion to them, for a CPMM the fees to
collect and for AMM v4 the profit to take; it adds no virtual reserve for a Pump.fun AMM; and for
Moonit the lamports make of the calibrated formula what the virtual reserves are. -/
def InProportion (account : AccountData) : ReserveKind → Prop
  | .raydiumCpmm => ∀ state balance0 balance1, CpmmPoolState.decode account.data = some state →
      accounts.balance state.vault0 = some balance0 → accounts.balance state.vault1 = some balance1 →
        (state.protocolFees0 + state.fundFees0 + state.creatorFees0) * balance1 =
          (state.protocolFees1 + state.fundFees1 + state.creatorFees1) * balance0
  | .raydiumLegacyAmm => ∀ state coinBalance pcBalance,
      AmmV4PoolState.decode account.data = some state →
        accounts.balance state.coinVault = some coinBalance →
          accounts.balance state.pcVault = some pcBalance →
            state.needTakePnlCoin * pcBalance = state.needTakePnlPc * coinBalance
  | .pumpFunAmm => ∀ state quoteReserve, PumpAmmPoolState.decode account.data = some state →
      accounts.balance state.quoteTokenAccount = some quoteReserve →
        state.virtualQuoteReserves = 0 ∨ quoteReserve = 2 ^ 64 - 1
  | .pumpFunLegacy => True
  | .moonit => ∀ info reserves, Moonit.decodeMoonitCurveAccount account.data = some info →
      currentReserves (info.totalSupply - info.curveAmount) = some reserves →
        (Moonit.amounts info account.lamports).1 * reserves.1 =
          reserves.2 * (Moonit.amounts info account.lamports).2

/-- The price is the ratio of the reserves, in whole SOL for a whole token. -/
def MonitoredAsQuoted (result : PriceResult K) (reserves : ℕ × ℕ) : Prop :=
  ∃ tokenDecimals, cache result.mint = some tokenDecimals ∧
    result.priceSol = whole reserves.1 solDecimals / whole reserves.2 tokenDecimals

/-- The decoder takes an account for the pool that is the pool, with its vaults. -/
def ReadsPool (kind : ReserveKind) (chain : Pubkey → Option AccountData) (pool : Pubkey)
    (account : AccountData) : Prop :=
  chain pool = some account ∧ TakesVaults accounts account kind

variable (K) in
/-- The decoder reads the pool and its vaults, of which the venue takes as much off both sides; or
it reads something else, where the amounts happen to be in the same ratio. -/
def Undistorted (kind : ReserveKind) (chain : Pubkey → Option AccountData) (pool : Pubkey)
    (reserves : ℕ × ℕ) : Prop :=
  ∃ account, picked K cache accounts baseMint quoteMint kind = some account ∧
    ((ReadsPool accounts kind chain pool account ∧ InProportion accounts account kind) ∨
      (¬ ReadsPool accounts kind chain pool account ∧
        ∃ amounts, found cache accounts account kind = some amounts ∧
          amounts.1 * reserves.2 = reserves.1 * amounts.2))

/-! ## What a price is computed from -/

section Priced

variable {cache accounts baseMint quoteMint} {result : PriceResult K}

lemma eq_of_reservePrice {sol token solDecimals tokenDecimals : ℕ} {price : K}
    (h : reservePrice sol token solDecimals tokenDecimals = some price) :
    price = whole sol solDecimals / whole token tokenDecimals := by
  unfold reservePrice at h
  dsimp only at h
  split at h
  · cases h
  · exact (Option.some.inj h).symm

lemma find?_of_findSome? {α β : Type} {f : α → Option β} {l : List α} {b : β}
    (h : l.findSome? f = some b) : ∃ a, (l.find? fun a => (f a).isSome) = some a ∧ f a = some b := by
  induction l with
  | nil => cases h
  | cons first rest ih =>
    rw [List.findSome?_cons] at h
    cases hfirst : f first with
    | some found =>
      rw [hfirst] at h
      exact ⟨first, by simp [hfirst], hfirst.trans h⟩
    | none =>
      rw [hfirst] at h
      obtain ⟨a, ha, hvalue⟩ := ih h
      exact ⟨a, by simp [hfirst, ha], hvalue⟩

/-- A price is computed from two amounts, and the decimals of the token. -/
structure PricedFromAmounts (cache : Pubkey → Option ℕ) (result : PriceResult K) (amounts : ℕ × ℕ)
    (tokenDecimals : ℕ) : Prop where
  decimals : cache result.mint = some tokenDecimals
  sol : 0 < amounts.1
  token : 0 < amounts.2
  price : result.priceSol = whole amounts.1 solDecimals / whole amounts.2 tokenDecimals

variable (cache accounts baseMint quoteMint result) in
/-- What the decoder of a kind divides is found in the account that it takes for the pool. -/
def Divides (kind : ReserveKind) : Prop :=
  ∃ account amounts tokenDecimals, picked K cache accounts baseMint quoteMint kind = some account ∧
    found cache accounts account kind = some amounts ∧
      PricedFromAmounts cache result amounts tokenDecimals

lemma target_cpmm {info : RaydiumCpmmPoolInfo} {target : Pubkey × Bool}
    (h : RaydiumCpmm.target baseMint quoteMint info = some target) :
    (info.token0Mint = solMint ∧ target = (info.token1Mint, false)) ∨
      (info.token0Mint ≠ solMint ∧ info.token1Mint = solMint ∧ target = (info.token0Mint, true)) := by
  unfold RaydiumCpmm.target at h
  grind

lemma divides_cpmm (hsol : cache solMint = some solDecimals)
    (h : RaydiumCpmm.decodeAndCalculate cache accounts baseMint quoteMint = some result) :
    Divides cache accounts baseMint quoteMint result .raydiumCpmm := by
  simp only [RaydiumCpmm.decodeAndCalculate, RaydiumCpmm.calculateRaydiumCpmmPrice, bind_eq_bind,
    bind_eq_some_iff] at h
  obtain ⟨account, haccount, info, hinfo, target, htarget, balance0, hbalance0, balance1, hbalance1,
      h⟩ := h
  have hdecimals : cache info.token0Mint = some info.token0Decimals ∧
      cache info.token1Mint = some info.token1Decimals := by
    simp only [RaydiumCpmm.decodeRaydiumCpmmPool, bind_eq_bind, bind_eq_some_iff,
      Option.some.injEq] at hinfo
    obtain ⟨mints, -, vault0, -, vault1, -, decimals0, hdecimals0, decimals1, hdecimals1, rfl⟩ := hinfo
    exact ⟨hdecimals0, hdecimals1⟩
  have hfound : found cache accounts account .raydiumCpmm =
      if info.token0Mint = solMint then some (balance0, balance1)
      else if info.token1Mint = solMint then some (balance1, balance0) else none := by
    simp [found, hinfo, hbalance0, hbalance1]
  rcases target_cpmm htarget with ⟨hfirst, rfl⟩ | ⟨hfirst, hsecond, rfl⟩
  · rw [hfirst, hsol] at hdecimals
    simp only [Bool.false_eq_true, if_false, ← Option.some.inj hdecimals.1] at h
    simp only [ite_none_left_eq_some, bind_eq_some_iff, Option.some.injEq] at h
    obtain ⟨hnonzero, -, price, hprice, rfl⟩ := h
    rw [if_pos hfirst] at hfound
    exact ⟨account, _, _, haccount, hfound, hdecimals.2, by grind, by grind,
      eq_of_reservePrice hprice⟩
  · rw [hsecond, hsol] at hdecimals
    simp only [if_true, ← Option.some.inj hdecimals.2] at h
    simp only [ite_none_left_eq_some, bind_eq_some_iff, Option.some.injEq] at h
    obtain ⟨hnonzero, -, price, hprice, rfl⟩ := h
    rw [if_neg hfirst, if_pos hsecond] at hfound
    exact ⟨account, _, _, haccount, hfound, hdecimals.1, by grind, by grind,
      eq_of_reservePrice hprice⟩

variable {info : LegacyPoolInfo}

lemma pcMint_of_parse {data : List UInt8} (h : RaydiumLegacyAmm.parse data = some info)
    (hcoin : info.coinMint = solMint) : info.pcMint = solMint := by
  unfold RaydiumLegacyAmm.parse at h
  split at h
  · cases h
  · simp only [bind_eq_bind, bind_eq_some_iff, Option.some.injEq] at h
    obtain ⟨vaultA, -, vaultB, -, mintA, -, mintB, -, rfl⟩ := h
    split at hcoin
    case isTrue hfirst => simp [hfirst]
    case isFalse hfirst => exact absurd hcoin hfirst

lemma adjustedPool_mints {account : AccountData}
    (h : RaydiumLegacyAmm.adjustedPool accounts account = some info) :
    ∃ parsed, RaydiumLegacyAmm.parse account.data = some parsed ∧ info.coinMint = parsed.coinMint ∧
      info.pcMint = parsed.pcMint := by
  unfold RaydiumLegacyAmm.adjustedPool at h
  split at h
  · cases h
  · obtain ⟨parsed, hparsed, rfl⟩ := map_eq_some_iff.mp h
    refine ⟨parsed, hparsed, ?_⟩
    unfold RaydiumLegacyAmm.adjustVaults
    dsimp only
    split_ifs <;> simp

lemma divides_legacy
    (h : RaydiumLegacyAmm.decodeAndCalculate cache accounts baseMint quoteMint = some result) :
    Divides cache accounts baseMint quoteMint result .raydiumLegacyAmm := by
  simp only [RaydiumLegacyAmm.decodeAndCalculate, bind_eq_bind, bind_eq_some_iff] at h
  obtain ⟨account, haccount, info, hinfo, reserves, hreserves, side, hside, decimals, hdecimals, h⟩ := h
  obtain ⟨parsed, hparsed, hcoin, hpc⟩ := adjustedPool_mints hinfo
  -- SOL cannot be the coin alone
  have hpcMint : info.pcMint = solMint ∧ side = (info.coinMint, true) := by
    unfold RaydiumLegacyAmm.tokenSide at hside
    split at hside
    case isTrue hpcSol => exact ⟨hpcSol, (Option.some.inj hside).symm⟩
    case isFalse hpcSol =>
      split at hside
      case isTrue hcoinSol =>
        exact absurd (hpc.trans (pcMint_of_parse hparsed (hcoin.symm.trans hcoinSol))) hpcSol
      case isFalse => cases hside
  obtain ⟨-, rfl⟩ := hpcMint
  simp only [if_true, ite_none_left_eq_some, bind_eq_some_iff, Option.some.injEq] at h
  obtain ⟨hnonzero, -, price, hprice, rfl⟩ := h
  refine ⟨account, reserves.swap, decimals, haccount, ?_, ?_, ?_, ?_, eq_of_reservePrice hprice⟩
  · simp [found, hinfo, hreserves]
  · dsimp only
    split_ifs with hbase hquote
    · rwa [← hbase]
    · rwa [← hquote]
    · exact hdecimals
  · simp only [Prod.fst_swap]; omega
  · simp only [Prod.snd_swap]; omega

lemma divides_pumpFunAmm (h : PumpFunAmm.decodeAndCalculate cache accounts = some result) :
    Divides cache accounts baseMint quoteMint result .pumpFunAmm := by
  obtain ⟨entry, hentry, hvalue⟩ := find?_of_findSome? h
  have hpicked : picked K cache accounts baseMint quoteMint .pumpFunAmm = some entry.2 := by
    simp only [picked, pricesPumpFunAmm, hentry, map_some]
  obtain ⟨sides, hsides, hprice⟩ := bind_eq_some_iff.mp hvalue
  simp only [PumpFunAmm.calculatePumpFunAmmPrice, bind_eq_bind, bind_eq_some_iff,
    ite_none_left_eq_some, Option.some.injEq] at hprice
  obtain ⟨token, htoken, sol, hsol, hnonzero, decimals, hdecimals, -, price, hprice, rfl⟩ := hprice
  refine ⟨entry.2, (sol, token), decimals, hpicked, ?_, hdecimals, ?_, ?_,
    eq_of_reservePrice hprice⟩
  · simp [found, hsides, htoken, hsol]
  · dsimp only; omega
  · dsimp only; omega

lemma divides_pumpFunLegacy
    (h : PumpFunLegacy.decodeAndCalculate cache accounts baseMint quoteMint = some result) :
    Divides cache accounts baseMint quoteMint result .pumpFunLegacy := by
  obtain ⟨tokenMint, hmint, h⟩ := bind_eq_some_iff.mp h
  obtain ⟨entry, hentry, hvalue⟩ := find?_of_findSome? h
  have hpicked : picked K cache accounts baseMint quoteMint .pumpFunLegacy = some entry.2 := by
    simp only [picked, pricesPumpFunLegacy, hmint, bind_some, hentry, map_some]
  split at hvalue
  case isFalse => cases hvalue
  case isTrue =>
    simp only [PumpFunLegacy.calculateBondingCurvePrice, bind_eq_bind, bind_eq_some_iff,
      ite_none_left_eq_some, Option.some.injEq] at hvalue
    obtain ⟨reserves, hreserves, decimals, hdecimals, -, price, hprice, rfl⟩ := hvalue
    have hpositive : reserves.1 ≠ 0 ∧ reserves.2 ≠ 0 := by
      simp only [PumpFunLegacy.virtualReserves, bind_eq_bind, bind_eq_some_iff,
        ite_none_left_eq_some] at hreserves
      obtain ⟨token, -, sol, -, hnonzero, hreserves⟩ := hreserves
      rw [← Option.some.inj hreserves]
      exact not_or.mp hnonzero
    refine ⟨entry.2, reserves.swap, decimals, hpicked, ?_, hdecimals, ?_, ?_,
      eq_of_positive hprice⟩
    · simp [found, hreserves]
    · exact Nat.pos_of_ne_zero hpositive.2
    · exact Nat.pos_of_ne_zero hpositive.1

variable [IsStrictOrderedRing K]

lemma dynamicPrice_eq (info : MoonitCurveInfo) (lamports tokenDecimals : ℕ)
    (hlamports : 0 < lamports) :
    let basic : K := whole lamports solDecimals / whole info.curveAmount tokenDecimals
    let dynamic := Moonit.dynamicPrice info (whole lamports solDecimals) basic tokenDecimals
    (if 0 < dynamic then dynamic else basic) =
      whole (Moonit.amounts info lamports).1 solDecimals /
        whole (Moonit.amounts info lamports).2 tokenDecimals := by
  intro basic dynamic
  rcases Nat.eq_zero_or_pos (info.totalSupply - info.curveAmount) with hsold | hsold
  · have hdynamic : dynamic = basic := by simp [dynamic, Moonit.dynamicPrice, hsold, whole]
    simp [hdynamic, Moonit.amounts, hsold, basic]
  · have htotal : 0 < info.totalSupply := by omega
    have htotal' : (0 : K) < info.totalSupply := by exact_mod_cast htotal
    have hsold' : (0 : K) < (info.totalSupply - info.curveAmount : ℕ) := by exact_mod_cast hsold
    have hlamports' : (0 : K) < lamports := by exact_mod_cast hlamports
    have hcast : ((info.totalSupply - info.curveAmount : ℕ) : K) =
        info.totalSupply - info.curveAmount :=
      Nat.cast_sub (by omega)
    have heq : dynamic = whole (Moonit.amounts info lamports).1 solDecimals /
        whole (Moonit.amounts info lamports).2 tokenDecimals := by
      have hwhole : (0 : K) < whole (info.totalSupply - info.curveAmount) tokenDecimals := by
        unfold whole
        positivity
      simp only [dynamic, Moonit.dynamicPrice, if_pos hwhole, if_pos htotal, Moonit.amounts, hsold.ne',
        if_false]
      simp only [whole, Nat.cast_mul, Nat.cast_add, Nat.cast_ofNat]
      rw [hcast] at hsold' ⊢
      have hne := hsold'.ne'
      field_simp
      ring
    have hpositive : 0 < dynamic := by
      rw [heq]
      simp only [Moonit.amounts, hsold.ne', if_false, whole, Nat.cast_mul, Nat.cast_add, Nat.cast_ofNat]
      positivity
    rw [if_pos hpositive, heq]

lemma divides_moonit (h : Moonit.decodeAndCalculate cache accounts baseMint quoteMint = some result) :
    Divides cache accounts baseMint quoteMint result .moonit := by
  simp only [Moonit.decodeAndCalculate, bind_eq_bind, bind_eq_some_iff] at h
  obtain ⟨account, haccount, info, hinfo, h⟩ := h
  simp only [Moonit.calculateMoonitPrice, ite_none_left_eq_some, bind_eq_bind, bind_eq_some_iff,
    Option.some.injEq] at h
  obtain ⟨-, -, decimals, hdecimals, htoken, basic, hbasic, rfl⟩ := h
  have hlamports : 0 < account.lamports := by
    by_contra hzero
    rw [Nat.eq_zero_of_not_pos hzero] at hbasic
    simp [whole, positive] at hbasic
  have hamount : 0 < info.curveAmount := by
    by_contra hzero
    rw [Nat.eq_zero_of_not_pos hzero] at htoken
    simp [whole] at htoken
  have hprice := dynamicPrice_eq (K := K) info account.lamports decimals hlamports
  rw [← eq_of_positive hbasic] at hprice
  refine ⟨account, _, decimals, haccount, by simp [found, hinfo], hdecimals, ?_, ?_, hprice⟩
  · unfold Moonit.amounts
    dsimp only
    split
    · exact hlamports
    · have : 0 < info.totalSupply := by omega
      positivity
  · unfold Moonit.amounts
    dsimp only
    split
    · exact hamount
    · have : 0 < info.totalSupply - info.curveAmount := by omega
      have : 0 < info.totalSupply := by omega
      positivity

lemma divides {stored : Pubkey → Option ℕ} {kind : ReserveKind}
    (h : decodeReserves (getCached stored) accounts baseMint quoteMint kind = some result) :
    Divides (getCached stored) accounts baseMint quoteMint result kind := by
  cases kind with
  | raydiumCpmm => exact divides_cpmm (getCached_solMint stored) h
  | raydiumLegacyAmm => exact divides_legacy h
  | pumpFunAmm => exact divides_pumpFunAmm h
  | pumpFunLegacy => exact divides_pumpFunLegacy h
  | moonit => exact divides_moonit h

end Priced

/-! ## What a venue takes off -/

section Own

variable {cache accounts} {chain : Pubkey → Option AccountData} {account : AccountData}
  {amounts reserves : ℕ × ℕ}

variable {vault : Pubkey} {balance : ℕ}

lemma Fetched.chainBalance_eq (h : Fetched chain accounts)
    (hbalance : accounts.balance vault = some balance) :
    chainBalance chain vault = some balance := by
  obtain ⟨found, hfound, hamount⟩ := bind_eq_some_iff.mp hbalance
  obtain ⟨before, after, rfl, -⟩ := List.lookup_eq_some_iff.mp hfound
  rw [chainBalance, h (vault, found) (by simp)]
  exact hamount

lemma mul_sub_eq_iff {a b f g : ℕ} (hf : f ≤ a) (hg : g ≤ b) :
    a * (b - g) = (a - f) * b ↔ f * b = g * a := by
  obtain ⟨c, rfl⟩ := Nat.exists_eq_add_of_le hf
  obtain ⟨d, rfl⟩ := Nat.exists_eq_add_of_le hg
  rw [Nat.add_sub_cancel_left, Nat.add_sub_cancel_left]
  constructor <;> intro h <;> nlinarith

lemma balance_lt (h : accounts.balance vault = some balance) : balance < 2 ^ 64 := by
  obtain ⟨found, -, hamount⟩ := bind_eq_some_iff.mp h
  unfold tokenAccountAmount at hamount
  obtain ⟨-, hamount⟩ := ite_none_left_eq_some.mp hamount
  exact (uintAt_lt hamount).trans_eq (by norm_num)

lemma eq_of_solFirst {α : Type} {mint0 mint1 : Pubkey} {side0 side1 : α} {sides : α × α}
    (h : solFirst mint0 mint1 side0 side1 = some sides) :
    (isSolMint mint0 = true ∧ isSolMint mint1 = false ∧ sides = (side0, side1)) ∨
      (isSolMint mint0 = false ∧ isSolMint mint1 = true ∧ sides = (side1, side0)) := by
  unfold solFirst at h
  grind

lemma forall_read_iff {σ : Type} {decoded : Option σ} {vault0 vault1 : σ → Pubkey} {state : σ}
    {balance0 balance1 : ℕ} {p : σ → ℕ → ℕ → Prop} (hstate : decoded = some state)
    (hbalance0 : accounts.balance (vault0 state) = some balance0)
    (hbalance1 : accounts.balance (vault1 state) = some balance1) :
    (∀ state balance0 balance1, decoded = some state → accounts.balance (vault0 state) = some balance0 →
      accounts.balance (vault1 state) = some balance1 → p state balance0 balance1) ↔
        p state balance0 balance1 := by
  constructor
  · intro h
    exact h state balance0 balance1 hstate hbalance0 hbalance1
  · intro h other other0 other1 hother hother0 hother1
    obtain rfl := Option.some.inj (hstate.symm.trans hother)
    rwa [Option.some.inj (hbalance0.symm.trans hother0),
      Option.some.inj (hbalance1.symm.trans hother1)] at h

lemma inProportion_cpmm (hfetched : Fetched chain accounts)
    (hfound : found cache accounts account .raydiumCpmm = some amounts)
    (hloaded : loadedReserves chain account.data .raydiumCpmm = some reserves) (hsol : 0 < reserves.1)
    (htoken : 0 < reserves.2) :
    InProportion accounts account .raydiumCpmm ↔ amounts.1 * reserves.2 = reserves.1 * amounts.2 := by
  simp only [found, bind_eq_bind, bind_eq_some_iff] at hfound
  obtain ⟨info, hinfo, balance0, hbalance0, balance1, hbalance1, hfound⟩ := hfound
  simp only [loadedReserves, bind_eq_bind, bind_eq_some_iff] at hloaded
  obtain ⟨state, hstate, chain0, hchain0, chain1, hchain1, hreserves⟩ := hloaded
  have hreads := state.reads hstate
  -- the decoder and the venue read the tokens and the vaults at the same offsets
  obtain ⟨hmint0, hmint1, hvault0, hvault1⟩ : info.token0Mint = state.mint0 ∧
      info.token1Mint = state.mint1 ∧ info.token0Vault = state.vault0 ∧
        info.token1Vault = state.vault1 := by
    simp only [RaydiumCpmm.decodeRaydiumCpmmPool, RaydiumCpmm.poolMints, bind_eq_bind,
      bind_eq_some_iff, Option.some.injEq, ite_none_left_eq_some, hreads.mint0,
        hreads.mint1,
      hreads.vault0, hreads.vault1] at hinfo
    obtain ⟨mints, ⟨-, mint0, rfl, mint1, rfl, -, -, rfl⟩, vault0, rfl, vault1, rfl, -, -, -, -,
        rfl⟩ := hinfo
    exact ⟨rfl, rfl, rfl, rfl⟩
  rw [hvault0] at hbalance0
  rw [hvault1] at hbalance1
  obtain rfl := Option.some.inj ((hfetched.chainBalance_eq hbalance0).symm.trans hchain0)
  obtain rfl := Option.some.inj ((hfetched.chainBalance_eq hbalance1).symm.trans hchain1)
  rw [hmint0, hmint1] at hfound
  have hproportion := forall_read_iff (p := fun state balance0 balance1 =>
    (state.protocolFees0 + state.fundFees0 + state.creatorFees0) * balance1 =
      (state.protocolFees1 + state.fundFees1 + state.creatorFees1) * balance0) hstate hbalance0
        hbalance1
  rw [InProportion, hproportion]
  simp only [CpmmPoolState.reserves, Nat.sub_sub] at hreserves
  rcases eq_of_solFirst hreserves with ⟨-, hsecond, rfl⟩ | ⟨hfirst, -, rfl⟩
  · have hsecond : state.mint1 ≠ solMint := by
      rintro h
      simp [h] at hsecond
    simp only [hsecond, if_false, ite_none_right_eq_some, Option.some.injEq] at hfound
    obtain ⟨-, rfl⟩ := hfound
    dsimp only at hsol htoken ⊢
    rw [mul_sub_eq_iff (by omega) (by omega)]
  · have hfirst : state.mint0 ≠ solMint := by
      rintro h
      simp [h] at hfirst
    simp only [hfirst, if_false, ite_none_right_eq_some, Option.some.injEq] at hfound
    obtain ⟨-, rfl⟩ := hfound
    dsimp only at hsol htoken ⊢
    rw [mul_sub_eq_iff (by omega) (by omega), eq_comm]

lemma inProportion_legacy (hfetched : Fetched chain accounts)
    (htakes : TakesVaults accounts account .raydiumLegacyAmm)
    (hfound : found cache accounts account .raydiumLegacyAmm = some amounts)
    (hloaded : loadedReserves chain account.data .raydiumLegacyAmm = some reserves)
    (hsol : 0 < reserves.1) (htoken : 0 < reserves.2) :
    InProportion accounts account .raydiumLegacyAmm ↔
      amounts.1 * reserves.2 = reserves.1 * amounts.2 := by
  obtain ⟨state, info, hstate, hinfo, hvaults, hcoin, hpc⟩ := htakes rfl
  obtain ⟨coin, hcoin⟩ := isSome_iff_exists.mp hcoin
  obtain ⟨pc, hpc⟩ := isSome_iff_exists.mp hpc
  -- both balances are there, so nothing is guessed from the pool's data
  have hamounts : amounts = (pc, coin) := by
    simp only [found, bind_eq_bind, hinfo, bind_some, RaydiumLegacyAmm.reserves,
      hcoin, hpc, map_some, Option.some.injEq] at hfound
    exact hfound.symm
  simp only [loadedReserves, bind_eq_bind, hstate, bind_some,
    bind_eq_some_iff] at hloaded
  obtain ⟨chainCoin, hchainCoin, chainPc, hchainPc, hreserves⟩ := hloaded
  simp only [AmmV4PoolState.reserves] at hreserves
  rcases eq_of_solFirst hvaults with ⟨hfirst, hsecond, hpair⟩ | ⟨hfirst, hsecond, hpair⟩
  · obtain ⟨hpcVault, hcoinVault⟩ := Prod.mk.inj hpair
    rw [hpcVault] at hpc
    rw [hcoinVault] at hcoin
    obtain rfl := Option.some.inj ((hfetched.chainBalance_eq hpc).symm.trans hchainCoin)
    obtain rfl := Option.some.inj ((hfetched.chainBalance_eq hcoin).symm.trans hchainPc)
    have hproportion := forall_read_iff (p := fun state coinBalance pcBalance =>
      state.needTakePnlCoin * pcBalance = state.needTakePnlPc * coinBalance) hstate hpc hcoin
    rw [InProportion, hproportion, hamounts]
    simp only [solFirst, hfirst, hsecond, if_true, Bool.false_eq_true, if_false,
      Option.some.injEq] at hreserves
    rw [← hreserves] at hsol htoken ⊢
    dsimp only at hsol htoken ⊢
    rw [mul_sub_eq_iff (by omega) (by omega)]
  · obtain ⟨hpcVault, hcoinVault⟩ := Prod.mk.inj hpair
    rw [hpcVault] at hpc
    rw [hcoinVault] at hcoin
    obtain rfl := Option.some.inj ((hfetched.chainBalance_eq hcoin).symm.trans hchainCoin)
    obtain rfl := Option.some.inj ((hfetched.chainBalance_eq hpc).symm.trans hchainPc)
    have hproportion := forall_read_iff (p := fun state coinBalance pcBalance =>
      state.needTakePnlCoin * pcBalance = state.needTakePnlPc * coinBalance) hstate hcoin hpc
    rw [InProportion, hproportion, hamounts]
    simp only [solFirst, hfirst, hsecond, if_true, Bool.false_eq_true, if_false,
      Option.some.injEq] at hreserves
    rw [← hreserves] at hsol htoken ⊢
    dsimp only at hsol htoken ⊢
    rw [mul_sub_eq_iff (by omega) (by omega), eq_comm]

lemma effectiveQuoteReserve_eq_iff {state : PumpAmmPoolState} {quoteReserve : ℕ}
    (hlt : quoteReserve < 2 ^ 64) :
    state.effectiveQuoteReserve quoteReserve = quoteReserve ↔
      state.virtualQuoteReserves = 0 ∨ quoteReserve = 2 ^ 64 - 1 := by
  unfold PumpAmmPoolState.effectiveQuoteReserve
  omega

lemma inProportion_pumpFunAmm (hfetched : Fetched chain accounts)
    (hfound : found cache accounts account .pumpFunAmm = some amounts)
    (hloaded : loadedReserves chain account.data .pumpFunAmm = some reserves) (hsol : 0 < amounts.1)
    (htoken : 0 < amounts.2) :
    InProportion accounts account .pumpFunAmm ↔ amounts.1 * reserves.2 = reserves.1 * amounts.2 := by
  simp only [found, bind_eq_bind, bind_eq_some_iff, Option.some.injEq] at hfound
  obtain ⟨sides, hsides, token, htokenBalance, sol, hsolBalance, rfl⟩ := hfound
  simp only [loadedReserves, bind_eq_bind, bind_eq_some_iff,
    ite_none_left_eq_some] at hloaded
  obtain ⟨state, hstate, base, hbase, quote, hquote, -, hreserves⟩ := hloaded
  have hreads := state.reads hstate
  -- the sides are of the tokens that the venue reads
  have hpair : analyzeTokenPair ⟨state.baseMint, state.quoteMint, state.baseTokenAccount,
      state.quoteTokenAccount⟩ = some sides := by
    simp only [PumpFunAmm.poolInfo, PumpFunAmm.decodePumpFunAmmPool,
      PumpFunAmm.extractPumpfunMintsAndVaults, bind_eq_bind, bind_eq_some_iff,
      ite_none_left_eq_some, hreads.baseMint, hreads.quoteMint, hreads.baseTokenAccount,
      hreads.quoteTokenAccount, Option.some.injEq] at hsides
    obtain ⟨-, -, info, ⟨-, mint1, rfl, mint2, rfl, vault1, rfl, vault2, rfl, rfl⟩, hpair⟩ := hsides
    exact hpair
  simp only [analyzeTokenPair, ite_none_left_eq_some] at hpair
  obtain ⟨-, -, hpair⟩ := hpair
  have hproportion (hbalance : accounts.balance state.quoteTokenAccount = some quote) :
      InProportion accounts account .pumpFunAmm ↔ state.effectiveQuoteReserve quote = quote := by
    rw [effectiveQuoteReserve_eq_iff (balance_lt hbalance)]
    constructor
    · intro h
      exact h state quote hstate hbalance
    · intro h other other' hother hother'
      obtain rfl := Option.some.inj (hstate.symm.trans hother)
      rwa [Option.some.inj (hbalance.symm.trans hother')] at h
  rcases eq_of_solFirst hreserves with ⟨hfirst, hsecond, rfl⟩ | ⟨hfirst, hsecond, rfl⟩
  · simp only [hfirst, hsecond, if_true, Bool.false_eq_true, if_false, Option.some.injEq] at hpair
    rw [← hpair] at htokenBalance hsolBalance
    obtain rfl := Option.some.inj ((hfetched.chainBalance_eq hsolBalance).symm.trans hbase)
    obtain rfl := Option.some.inj ((hfetched.chainBalance_eq htokenBalance).symm.trans hquote)
    rw [hproportion htokenBalance]
    exact (Nat.mul_right_inj hsol.ne').symm
  · simp only [hfirst, hsecond, if_true, Bool.false_eq_true, if_false, Option.some.injEq] at hpair
    rw [← hpair] at htokenBalance hsolBalance
    obtain rfl := Option.some.inj ((hfetched.chainBalance_eq htokenBalance).symm.trans hbase)
    obtain rfl := Option.some.inj ((hfetched.chainBalance_eq hsolBalance).symm.trans hquote)
    rw [hproportion hsolBalance, eq_comm]
    exact (Nat.mul_left_inj htoken.ne').symm

lemma inProportion_iff {kind : ReserveKind} (hfetched : Fetched chain accounts)
    (htakes : TakesVaults accounts account kind)
    (hfound : found cache accounts account kind = some amounts)
    (hloaded : loadedReserves chain account.data kind = some reserves)
    (hamounts : 0 < amounts.1 ∧ 0 < amounts.2) (hreserves : 0 < reserves.1 ∧ 0 < reserves.2) :
    InProportion accounts account kind ↔ amounts.1 * reserves.2 = reserves.1 * amounts.2 := by
  cases kind with
  | raydiumCpmm => exact inProportion_cpmm hfetched hfound hloaded hreserves.1 hreserves.2
  | raydiumLegacyAmm => exact inProportion_legacy hfetched htakes hfound hloaded hreserves.1 hreserves.2
  | pumpFunAmm => exact inProportion_pumpFunAmm hfetched hfound hloaded hamounts.1 hamounts.2
  | pumpFunLegacy =>
    -- both read the virtual reserves at the same offsets
    simp only [found, PumpFunLegacy.virtualReserves, bind_eq_bind, map_eq_some_iff,
      bind_eq_some_iff, ite_none_left_eq_some, Option.some.injEq] at hfound
    obtain ⟨_, ⟨token, htoken, sol, hsol, -, rfl⟩, rfl⟩ := hfound
    simp only [loadedReserves, BondingCurve.decode, bind_eq_bind, bind_eq_some_iff,
      ite_none_left_eq_some, htoken, hsol, Option.some.injEq] at hloaded
    obtain ⟨_, ⟨-, _, rfl, _, rfl, rfl⟩, rfl⟩ := hloaded
    exact iff_of_true trivial rfl
  | moonit =>
    simp only [found, bind_eq_bind, bind_eq_some_iff, Option.some.injEq] at hfound
    obtain ⟨info, hinfo, rfl⟩ := hfound
    simp only [loadedReserves, bind_eq_bind, bind_eq_some_iff,
      ite_none_right_eq_some, Option.some.injEq] at hloaded
    obtain ⟨curve, hcurve, -, current, hcurrent, rfl⟩ := hloaded
    have hposition : curve.totalSupply = info.totalSupply ∧ curve.curveAmount = info.curveAmount := by
      have hinfo' := hinfo
      simp only [Moonit.decodeMoonitCurveAccount, bind_eq_bind, bind_eq_some_iff,
        ite_none_left_eq_some, Option.some.injEq] at hinfo'
      obtain ⟨-, total, htotal, amount, hamount, _, -, _, -, rfl⟩ := hinfo'
      simp only [CurveAccountState.decode, bind_eq_bind, bind_eq_some_iff,
        ite_none_left_eq_some, htotal, hamount, Option.some.injEq] at hcurve
      obtain ⟨-, _, rfl, _, rfl, _, -, _, -, _, -, _, -, rfl⟩ := hcurve
      exact ⟨rfl, rfl⟩
    rw [hposition.1, hposition.2] at hcurrent
    constructor
    · intro h
      exact h info current hinfo hcurrent
    · intro h other other' hother hother'
      obtain rfl := Option.some.inj (hinfo.symm.trans hother)
      rwa [Option.some.inj (hcurrent.symm.trans hother')] at h

end Own

/-! ## The monitored price -/

variable [IsStrictOrderedRing K]

lemma whole_div_whole_eq_iff (tokenDecimals : ℕ) {sol token sol' token' : ℕ} (htoken : 0 < token)
    (htoken' : 0 < token') :
    (whole sol solDecimals / whole token tokenDecimals : K) =
        whole sol' solDecimals / whole token' tokenDecimals ↔ sol * token' = sol' * token := by
  have h : (token : K) ≠ 0 := by exact_mod_cast htoken.ne'
  have h' : (token' : K) ≠ 0 := by exact_mod_cast htoken'.ne'
  unfold whole
  rw [div_div_div_comm, div_div_div_comm (sol' : K), div_left_inj' (by positivity), div_eq_div_iff h h']
  exact_mod_cast Iff.rfl

/-- **A monitored price is as quoted exactly when** the decoder reads the pool and its vaults, and
what the venue takes off both sides is in proportion to them; or it reads something else in the same
ratio. -/
theorem monitoredAsQuoted_iff (kind : ReserveKind) (stored : Pubkey → Option ℕ)
    (chain : Pubkey → Option AccountData) (pool : Pubkey) (accounts : Accounts)
    (baseMint quoteMint : Pubkey)
    (result : PriceResult K) (reserves : ℕ × ℕ) (hfetched : Fetched chain accounts)
    (hresult : decodeReserves (getCached stored) accounts baseMint quoteMint kind = some result)
    (hquoted : venueReserves kind chain pool = some reserves) :
    MonitoredAsQuoted (getCached stored) result reserves ↔
      Undistorted K (getCached stored) accounts baseMint quoteMint kind chain pool reserves := by
  obtain ⟨account, amounts, tokenDecimals, hpicked, hfound, hpriced⟩ := divides hresult
  simp only [venueReserves, bind_eq_bind, bind_eq_some_iff, ite_none_left_eq_some,
    Option.some.injEq] at hquoted
  obtain ⟨poolAccount, hpool, loaded, hloaded, hnonzero, hreserves⟩ := hquoted
  subst hreserves
  have hpositive : 0 < loaded.1 ∧ 0 < loaded.2 := by omega
  have hprice : MonitoredAsQuoted (getCached stored) result loaded ↔
      amounts.1 * loaded.2 = loaded.1 * amounts.2 := by
    rw [← whole_div_whole_eq_iff (K := K) tokenDecimals hpriced.token hpositive.2,
      ← hpriced.price]
    constructor
    · rintro ⟨decimals, hdecimals, h⟩
      rwa [Option.some.inj (hdecimals.symm.trans hpriced.decimals)] at h
    · intro h
      exact ⟨tokenDecimals, hpriced.decimals, h⟩
  have hreads : ReadsPool accounts kind chain pool account →
      (InProportion accounts account kind ↔ amounts.1 * loaded.2 = loaded.1 * amounts.2) := by
    rintro ⟨haccount, htakes⟩
    obtain rfl := Option.some.inj (hpool.symm.trans haccount)
    exact inProportion_iff hfetched htakes hfound hloaded ⟨hpriced.sol, hpriced.token⟩ hpositive
  rw [hprice]
  constructor
  · intro hratio
    refine ⟨account, hpicked, ?_⟩
    by_cases hown : ReadsPool accounts kind chain pool account
    · exact Or.inl ⟨hown, (hreads hown).mpr hratio⟩
    · exact Or.inr ⟨hown, amounts, hfound, hratio⟩
  · rintro ⟨other, hother, h⟩
    obtain rfl := Option.some.inj (hpicked.symm.trans hother)
    rcases h with ⟨hown, hproportion⟩ | ⟨-, found', hfound', hratio⟩
    · exact (hreads hown).mp hproportion
    · rwa [Option.some.inj (hfound.symm.trans hfound')]

/-! ## A pool with fees to collect -/

variable (protocolFees0 : ℕ)

/-- A CPMM pool account of SOL and a token, with fees of SOL to collect. -/
def cpmmData : List UInt8 :=
  zeros 72 ++ (repeated 3).bytes ++ (repeated 4).bytes ++ zeros 32 ++ solMint.bytes ++
    (repeated 1).bytes ++
    zeros 109 ++ toLeBytes protocolFees0 8 ++ zeros 64

/-- The accounts of such a pool, which has as much SOL as of the token. -/
def cpmmAccounts : Accounts :=
  bundle RaydiumCpmm.programId (cpmmData protocolFees0) (10 ^ 9) (10 ^ 9)

lemma fetched_cpmmAccounts :
    Fetched (cpmmAccounts protocolFees0).get (cpmmAccounts protocolFees0) := by
  intro entry hentry
  simp only [cpmmAccounts, bundle, List.mem_cons, List.not_mem_nil, or_false] at hentry
  rcases hentry with rfl | rfl | rfl <;> rfl

lemma decodeReserves_cpmmAccounts {protocolFees0 : ℕ}
    (h : protocolFees0 = 0 ∨ protocolFees0 = 5 * 10 ^ 8) :
    ∃ result : PriceResult ℚ, decodeReserves (getCached fun _ => some 9)
      (cpmmAccounts protocolFees0) (repeated 1)
      solMint .raydiumCpmm = some result ∧ result.priceSol = 1 ∧ result.mint = repeated 1 := by
  have hprice : (decodeReserves (getCached fun _ => some 9) (cpmmAccounts protocolFees0) (repeated 1)
      solMint .raydiumCpmm : Option (PriceResult ℚ)).map
        (fun result => (result.priceSol, result.mint)) =
        some (1, repeated 1) := by
    rcases h with rfl | rfl <;> decide +kernel
  obtain ⟨result, hresult, hpair⟩ := map_eq_some_iff.mp hprice
  exact ⟨result, hresult, congrArg Prod.fst hpair, congrArg Prod.snd hpair⟩

/-- With nothing to collect. -/
theorem monitoredAsQuoted_cpmm :
    ∃ result : PriceResult ℚ,
      (MonitoredAsQuoted (getCached fun _ => some 9) result (10 ^ 9, 10 ^ 9) ↔
        Undistorted ℚ (getCached fun _ => some 9) (cpmmAccounts 0) (repeated 1) solMint .raydiumCpmm
          (cpmmAccounts 0).get (repeated 2) (10 ^ 9, 10 ^ 9)) := by
  obtain ⟨result, hresult, -⟩ := decodeReserves_cpmmAccounts (Or.inl rfl)
  exact ⟨result,
    monitoredAsQuoted_iff _ _ _ _ _ _ _ _ _ (fetched_cpmmAccounts 0) hresult (by decide +kernel)⟩

/-- **The monitored price is not the quoted one** for a CPMM pool half of whose SOL is fees to
collect. -/
theorem not_monitoredAsQuoted :
    ¬ ∀ (kind : ReserveKind) (stored : Pubkey → Option ℕ) (chain : Pubkey → Option AccountData)
      (pool : Pubkey)
      (accounts : Accounts) (baseMint quoteMint : Pubkey) (result : PriceResult ℚ) (reserves : ℕ × ℕ),
        Fetched chain accounts →
          decodeReserves (getCached stored) accounts baseMint quoteMint kind = some result →
            venueReserves kind chain pool = some reserves →
              MonitoredAsQuoted (getCached stored) result reserves := by
  intro h
  obtain ⟨result, hresult, hprice, hmint⟩ := decodeReserves_cpmmAccounts (Or.inr rfl)
  have hquoted : venueReserves .raydiumCpmm (cpmmAccounts (5 * 10 ^ 8)).get (repeated 2) =
      some (5 * 10 ^ 8, 10 ^ 9) := by
    decide +kernel
  obtain ⟨tokenDecimals, hdecimals, hratio⟩ :=
      h _ _ _ _ _ _ _ _ _ (fetched_cpmmAccounts _) hresult hquoted
  rw [hmint] at hdecimals
  obtain rfl : 9 = tokenDecimals := by
    simpa [getCached, show isSolMint (repeated 1) = false by decide] using hdecimals
  rw [hprice] at hratio
  norm_num [whole, solDecimals] at hratio

end Dripline.Pools
