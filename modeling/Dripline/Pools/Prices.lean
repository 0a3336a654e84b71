import Dripline.Pools.Damm

/-!
# Monitored prices and quoted prices

`swaps/direct/venues/{raydium_clmm, orca_whirlpool, meteora_dlmm, meteora_damm}.rs`, what a quote
starts from.

* `monitored_prices` — the monitored price is the quoted one, whichever token is SOL; and what the
  corrections of the DAMM decoder make of it.
-/

namespace Dripline.Pools

open Option

/-- The two tokens of a pool with their vaults, and how much of the second a raw unit of the first
is worth. -/
structure Quoted (K : Type) where
  first : Pubkey
  second : Pubkey
  firstVault : Pubkey
  secondVault : Pubkey
  price : K
  deriving DecidableEq

namespace Quoted

variable {K : Type} (pool : Quoted K)

/-- Wrapped SOL is one of the two, and the other one is a token. -/
def HasSol : Prop :=
  (pool.second = solMint ∧ isSolMint pool.first = false) ∨
    (pool.first = solMint ∧ isSolMint pool.second = false)

/-- The token that is not SOL. -/
def token : Pubkey := if pool.second = solMint then pool.first else pool.second

/-- The vault of SOL. -/
def solVault : Pubkey := if pool.second = solMint then pool.secondVault else pool.firstVault

/-- The vault of the token. -/
def tokenVault : Pubkey := if pool.second = solMint then pool.firstVault else pool.secondVault

/-- The orientation that a decoder finds in a pool with SOL. -/
def sides : Sides := ⟨pool.token, pool.solVault, pool.tokenVault, decide (pool.second = solMint)⟩

variable [Field K]

/-- Raw SOL for a raw unit of the token. -/
def solPrice : K := if pool.second = solMint then pool.price else pool.price⁻¹

/-- The quoted price in whole SOL for a whole token. -/
def wholePrice (tokenDecimals : ℕ) : K :=
  pool.solPrice * 10 ^ ((tokenDecimals : ℤ) - solDecimals)

/-- The pool with its tokens exchanged. -/
def mirror : Quoted K :=
  ⟨pool.second, pool.first, pool.secondVault, pool.firstVault, pool.price⁻¹⟩

variable {pool}

lemma ne_solMint_of_isSolMint {mint : Pubkey} (h : isSolMint mint = false) : mint ≠ solMint := by
  rintro rfl
  simp at h

lemma solPrice_mirror (h : pool.HasSol) :
    pool.mirror.token = pool.token ∧ pool.mirror.solPrice = pool.solPrice := by
  obtain ⟨hsecond, hfirst⟩ | ⟨hfirst, hsecond⟩ := h
  · have hne : pool.first ≠ solMint := ne_solMint_of_isSolMint hfirst
    simp [mirror, token, solPrice, hsecond, hne]
  · have hne : pool.second ≠ solMint := ne_solMint_of_isSolMint hsecond
    simp [mirror, token, solPrice, hfirst, hne]

end Quoted

/-! ## Venues -/

/-- Source: `venues/raydium_clmm.rs`, `ClmmPoolState`, the price and what it is of -/
structure ClmmPoolState where
  mint0 : Pubkey
  mint1 : Pubkey
  vault0 : Pubkey
  vault1 : Pubkey
  sqrtPriceX64 : ℕ

/-- Source: `venues/raydium_clmm.rs` -/
def ClmmPoolState.decode (data : List UInt8) : Option ClmmPoolState := do
  let mint0 ← pubkeyAt data 73
  let mint1 ← pubkeyAt data 105
  let vault0 ← pubkeyAt data 137
  let vault1 ← pubkeyAt data 169
  let sqrtPriceX64 ← uintAt data 253 16
  some ⟨mint0, mint1, vault0, vault1, sqrtPriceX64⟩

/-- Source: `venues/orca_whirlpool.rs`, `WhirlpoolState`, the price and what it is of -/
structure WhirlpoolState where
  sqrtPrice : ℕ
  mintA : Pubkey
  vaultA : Pubkey
  mintB : Pubkey
  vaultB : Pubkey

/-- Source: `venues/orca_whirlpool.rs` -/
def WhirlpoolState.decode (data : List UInt8) : Option WhirlpoolState := do
  let sqrtPrice ← uintAt data 65 16
  let mintA ← pubkeyAt data 101
  let vaultA ← pubkeyAt data 133
  let mintB ← pubkeyAt data 181
  let vaultB ← pubkeyAt data 213
  some ⟨sqrtPrice, mintA, vaultA, mintB, vaultB⟩

/-- Source: `venues/meteora_dlmm.rs`, `LbPairState`, the price and what it is of -/
structure LbPairState where
  activeId : ℤ
  binStep : ℕ
  tokenXMint : Pubkey
  tokenYMint : Pubkey
  reserveX : Pubkey
  reserveY : Pubkey

/-- Source: `venues/meteora_dlmm.rs` -/
def LbPairState.decode (data : List UInt8) : Option LbPairState := do
  let activeId ← intAt data 76 4
  let binStep ← uintAt data 80 2
  let tokenXMint ← pubkeyAt data 88
  let tokenYMint ← pubkeyAt data 120
  let reserveX ← pubkeyAt data 152
  let reserveY ← pubkeyAt data 184
  some ⟨activeId, binStep, tokenXMint, tokenYMint, reserveX, reserveY⟩

/-- Source: `venues/meteora_damm.rs`, `DammPoolState`, the price and what it is of -/
structure DammPoolState where
  mintA : Pubkey
  mintB : Pubkey
  vaultA : Pubkey
  vaultB : Pubkey
  liquidity : ℕ
  sqrtPrice : ℕ

/-- Source: `venues/meteora_damm.rs` -/
def DammPoolState.decode (data : List UInt8) : Option DammPoolState := do
  let mintA ← pubkeyAt data 168
  let mintB ← pubkeyAt data 200
  let vaultA ← pubkeyAt data 232
  let vaultB ← pubkeyAt data 264
  let liquidity ← uintAt data 360 16
  let sqrtPrice ← uintAt data 456 16
  some ⟨mintA, mintB, vaultA, vaultB, liquidity, sqrtPrice⟩

/-- The four kinds of pool that have a price of their own beside the vaults. -/
inductive PoolKind
  | raydiumClmm
  | orcaWhirlpool
  | meteoraDlmm
  | meteoraDamm
  deriving DecidableEq

variable {K : Type}

/-! ## Orientation -/

section orientation

variable (price : K)

lemma sides_clmm (info : ClmmPoolInfo)
    (hsol : (⟨info.tokenMint0, info.tokenMint1, info.tokenVault0, info.tokenVault1, price⟩ :
      Quoted K).HasSol) :
    RaydiumClmm.sides info = some (Quoted.sides
      ⟨info.tokenMint0, info.tokenMint1, info.tokenVault0, info.tokenVault1, price⟩) := by
  obtain ⟨hsecond, hfirst⟩ | ⟨hfirst, hsecond⟩ := hsol
  · simp_all [RaydiumClmm.sides, Quoted.sides, Quoted.token, Quoted.solVault, Quoted.tokenVault]
  · have hne : info.tokenMint1 ≠ solMint := Quoted.ne_solMint_of_isSolMint hsecond
    simp_all [RaydiumClmm.sides, Quoted.sides, Quoted.token, Quoted.solVault, Quoted.tokenVault]

lemma sides_whirlpool (info : WhirlpoolInfo)
    (hsol : (⟨info.tokenMintA, info.tokenMintB, info.tokenVaultA, info.tokenVaultB, price⟩ :
      Quoted K).HasSol) :
    OrcaWhirlpool.sides info = some (Quoted.sides
      ⟨info.tokenMintA, info.tokenMintB, info.tokenVaultA, info.tokenVaultB, price⟩) := by
  obtain ⟨hsecond, hfirst⟩ | ⟨hfirst, hsecond⟩ := hsol
  · have hne : info.tokenMintA ≠ solMint := Quoted.ne_solMint_of_isSolMint hfirst
    simp_all [OrcaWhirlpool.sides, Quoted.sides, Quoted.token, Quoted.solVault, Quoted.tokenVault]
  · have hne : info.tokenMintB ≠ solMint := Quoted.ne_solMint_of_isSolMint hsecond
    simp_all [OrcaWhirlpool.sides, Quoted.sides, Quoted.token, Quoted.solVault, Quoted.tokenVault]

lemma sides_dlmm (info : DlmmPoolInfo)
    (hsol : (⟨info.tokenXMint, info.tokenYMint, info.reserveX, info.reserveY, price⟩ :
      Quoted K).HasSol) :
    MeteoraDlmm.sides info = some (Quoted.sides
      ⟨info.tokenXMint, info.tokenYMint, info.reserveX, info.reserveY, price⟩) := by
  obtain ⟨hsecond, hfirst⟩ | ⟨hfirst, hsecond⟩ := hsol
  · simp_all [MeteoraDlmm.sides, Quoted.sides, Quoted.token, Quoted.solVault, Quoted.tokenVault]
  · have hne : info.tokenYMint ≠ solMint := Quoted.ne_solMint_of_isSolMint hsecond
    simp_all [MeteoraDlmm.sides, Quoted.sides, Quoted.token, Quoted.solVault, Quoted.tokenVault]

lemma sides_damm (info : DammPoolInfo)
    (hsol : (⟨info.tokenAMint, info.tokenBMint, info.tokenAVault, info.tokenBVault, price⟩ :
      Quoted K).HasSol) :
    MeteoraDamm.sides info = some (Quoted.sides
      ⟨info.tokenAMint, info.tokenBMint, info.tokenAVault, info.tokenBVault, price⟩) := by
  obtain ⟨hsecond, hfirst⟩ | ⟨hfirst, hsecond⟩ := hsol
  · simp_all [MeteoraDamm.sides, Quoted.sides, Quoted.token, Quoted.solVault, Quoted.tokenVault]
  · have hne : info.tokenBMint ≠ solMint := Quoted.ne_solMint_of_isSolMint hsecond
    simp_all [MeteoraDamm.sides, Quoted.sides, Quoted.token, Quoted.solVault, Quoted.tokenVault]

end orientation

variable [Field K]

/-- The square of a square root price, which has 64 binary places. -/
def squared (sqrtPrice : ℕ) : K := ((sqrtPrice : K) / 2 ^ 64) ^ 2

/-- What a venue quotes a pool from; a DAMM pool without liquidity or without a price is not quoted.
Source: `venues`, each `decode`; `venues/meteora_damm.rs`, `step`, the guard;
`venues/meteora_dlmm.rs`, the price of a bin -/
def quoted (kind : PoolKind) (data : List UInt8) : Option (Quoted K) :=
  match kind with
  | .raydiumClmm =>
    (ClmmPoolState.decode data).map fun state =>
      ⟨state.mint0, state.mint1, state.vault0, state.vault1, squared state.sqrtPriceX64⟩
  | .orcaWhirlpool =>
    (WhirlpoolState.decode data).map fun state =>
      ⟨state.mintA, state.mintB, state.vaultA, state.vaultB, squared state.sqrtPrice⟩
  | .meteoraDlmm =>
    (LbPairState.decode data).map fun state =>
      ⟨state.tokenXMint, state.tokenYMint, state.reserveX, state.reserveY,
        (1 + (state.binStep : K) / 10000) ^ state.activeId⟩
  | .meteoraDamm =>
    (DammPoolState.decode data).bind fun state =>
      if state.liquidity = 0 ∨ state.sqrtPrice = 0 then none
      else some ⟨state.mintA, state.mintB, state.vaultA, state.vaultB, squared state.sqrtPrice⟩

/-! ## What the decoder and the venue read -/

section readings

variable {data : List UInt8}

lemma quoted_clmm {info : ClmmPoolInfo} (hinfo : RaydiumClmm.parseClmmPool data = some info) :
    quoted .raydiumClmm data = some (⟨info.tokenMint0, info.tokenMint1, info.tokenVault0,
      info.tokenVault1, squared info.sqrtPriceX64⟩ : Quoted K) := by
  simp only [RaydiumClmm.parseClmmPool, ite_none_left_eq_some, bind_eq_bind, bind_eq_some_iff,
    Option.some.injEq] at hinfo
  obtain ⟨-, mint0, hmint0, mint1, hmint1, vault0, hvault0, vault1, hvault1, sqrt, hsqrt, rfl⟩ := hinfo
  simp [quoted, ClmmPoolState.decode, hmint0, hmint1, hvault0, hvault1, hsqrt]

lemma quoted_whirlpool {info : WhirlpoolInfo}
    (hinfo : OrcaWhirlpool.parseWhirlpoolData data = some info) :
    quoted .orcaWhirlpool data = some (⟨info.tokenMintA, info.tokenMintB, info.tokenVaultA,
      info.tokenVaultB, squared info.sqrtPrice⟩ : Quoted K) := by
  simp only [OrcaWhirlpool.parseWhirlpoolData, ite_none_left_eq_some, bind_eq_bind, bind_eq_some_iff,
    Option.some.injEq] at hinfo
  obtain ⟨-, liquidity, -, sqrt, hsqrt, mintA, hmintA, vaultA, hvaultA, mintB, hmintB, vaultB, hvaultB,
    rfl⟩ := hinfo
  simp [quoted, WhirlpoolState.decode, hmintA, hmintB, hvaultA, hvaultB, hsqrt]

lemma quoted_dlmm {info : DlmmPoolInfo} (hinfo : MeteoraDlmm.parseDlmmPool data = some info) :
    quoted .meteoraDlmm data = some (⟨info.tokenXMint, info.tokenYMint, info.reserveX,
      info.reserveY, (1 + (info.binStep : K) / 10000) ^ info.activeId⟩ : Quoted K) := by
  simp only [MeteoraDlmm.parseDlmmPool, ite_none_left_eq_some, bind_eq_bind, bind_eq_some_iff,
    Option.some.injEq] at hinfo
  obtain ⟨-, mintX, hmintX, mintY, hmintY, reserveX, hreserveX, reserveY, hreserveY, activeId, hactiveId,
    binStep, hbinStep, rfl⟩ := hinfo
  simp [quoted, LbPairState.decode, hmintX, hmintY, hreserveX, hreserveY, hactiveId, hbinStep]

lemma quoted_damm {info : DammPoolInfo} {pool : Quoted K}
    (hinfo : MeteoraDamm.parseDammPool data = some info)
    (hquoted : quoted .meteoraDamm data = some pool) :
    pool = ⟨info.tokenAMint, info.tokenBMint, info.tokenAVault, info.tokenBVault,
      squared info.sqrtPrice⟩ ∧ 0 < info.sqrtPrice := by
  unfold MeteoraDamm.parseDammPool at hinfo
  split at hinfo
  · cases hinfo
  · simp only [bind_eq_bind, bind_eq_some_iff, Option.some.injEq] at hinfo
    obtain ⟨mintA, hmintA, mintB, hmintB, vaultA, hvaultA, vaultB, hvaultB, rfl⟩ := hinfo
    simp only [quoted, DammPoolState.decode, bind_eq_bind, bind_eq_some_iff,
      hmintA, hmintB, hvaultA, hvaultB, Option.some.injEq] at hquoted
    obtain ⟨state, ⟨_, rfl, _, rfl, _, rfl, _, rfl, liquidity, -, sqrt, hsqrt, rfl⟩, hquoted⟩ := hquoted
    split at hquoted
    · cases hquoted
    case isFalse hboth =>
      have hpos : 0 < sqrt := Nat.pos_of_ne_zero fun hzero => hboth (.inr hzero)
      obtain rfl := Option.some.inj hquoted
      simp [MeteoraDamm.u128OrZero, hsqrt, hpos]

end readings

/-! ## Scale -/

section scale

variable {tokenDecimals : ℕ}

lemma wholePrice_clmm (info : ClmmPoolInfo) (tokenDecimals : ℕ) :
    RaydiumClmm.priceSol info (decide (info.tokenMint1 = solMint)) tokenDecimals =
      Quoted.wholePrice (⟨info.tokenMint0, info.tokenMint1, info.tokenVault0, info.tokenVault1,
        squared info.sqrtPriceX64⟩ : Quoted K) tokenDecimals := by
  by_cases hsecond : info.tokenMint1 = solMint
  · simp [RaydiumClmm.priceSol, Quoted.wholePrice, Quoted.solPrice, squared, hsecond, sq]
  · simp [RaydiumClmm.priceSol, Quoted.wholePrice, Quoted.solPrice, squared, hsecond, sq]

lemma inv_scale (tokenDecimals : ℕ) :
    ((10 : K) ^ ((solDecimals : ℤ) - tokenDecimals))⁻¹ =
      10 ^ ((tokenDecimals : ℤ) - solDecimals) := by
  rw [← zpow_neg, neg_sub]

lemma wholePrice_whirlpool {info : WhirlpoolInfo} {price : K}
    (h : OrcaWhirlpool.priceSol info (decide (info.tokenMintB = solMint)) tokenDecimals =
      some price) :
    price = Quoted.wholePrice (⟨info.tokenMintA, info.tokenMintB, info.tokenVaultA, info.tokenVaultB,
      squared info.sqrtPrice⟩ : Quoted K) tokenDecimals := by
  have hscale : (18446744073709551616 : K) = 2 ^ 64 := by norm_num
  unfold OrcaWhirlpool.priceSol at h
  by_cases hsecond : info.tokenMintB = solMint
  · simp only [hsecond, decide_true, if_true, Option.some.injEq] at h
    simp [← h, Quoted.wholePrice, Quoted.solPrice, squared, hsecond, hscale]
  · simp only [hsecond, decide_false, Bool.false_eq_true, if_false] at h
    split at h
    · cases h
    · simp only [Option.some.injEq] at h
      simp [← h, Quoted.wholePrice, Quoted.solPrice, squared, hsecond, hscale, inv_scale, mul_comm]

end scale

/-! ## The four decoders -/

variable [LinearOrder K]

/-- The program that owns a kind of pool. -/
def PoolKind.programId : PoolKind → Pubkey
  | .raydiumClmm => RaydiumClmm.programId
  | .orcaWhirlpool => OrcaWhirlpool.programId
  | .meteoraDlmm => MeteoraDlmm.programId
  | .meteoraDamm => MeteoraDamm.programId

/-- Source: `decoders/mod.rs`, `decode_pool`, on these kinds -/
def decodePool (powf : K → K → K) (cache : Pubkey → Option ℕ) (kind : PoolKind) (accounts : Accounts)
    (baseMint quoteMint : Pubkey) : Option (PriceResult K) :=
  match kind with
  | .raydiumClmm => RaydiumClmm.decodeAndCalculate cache accounts baseMint quoteMint
  | .orcaWhirlpool => OrcaWhirlpool.decodeAndCalculate cache accounts
  | .meteoraDlmm => MeteoraDlmm.decodeAndCalculate cache accounts baseMint quoteMint
  | .meteoraDamm => MeteoraDamm.decodeAndCalculate powf cache accounts baseMint quoteMint

/-- What a price was computed from: the decimals of the token and the balances of the vaults. -/
structure PricedFrom (cache : Pubkey → Option ℕ) (accounts : Accounts) (pool : Quoted K)
    (tokenDecimals solBalance tokenBalance : ℕ) : Prop where
  decimals : cache pool.token = some tokenDecimals
  solBalance : accounts.balance pool.solVault = some solBalance
  tokenBalance : accounts.balance pool.tokenVault = some tokenBalance

variable {powf : K → K → K} {cache : Pubkey → Option ℕ} {accounts : Accounts}
  {baseMint quoteMint : Pubkey} {result : PriceResult K} {pool : Quoted K}

lemma eq_of_positive {price checked : K} (h : positive price = some checked) : checked = price := by
  exact (Option.some.inj (ite_none_left_eq_some.mp h).2).symm

lemma priceSol_clmm
    (hresult : RaydiumClmm.decodeAndCalculate cache accounts baseMint quoteMint = some result)
    (hquoted : (accounts.poolAccount RaydiumClmm.programId).bind
      (fun account => quoted .raydiumClmm account.data) = some pool) (hsol : pool.HasSol) :
    ∃ tokenDecimals solBalance tokenBalance,
      PricedFrom cache accounts pool tokenDecimals solBalance tokenBalance ∧
        result.priceSol = pool.wholePrice tokenDecimals := by
  simp only [RaydiumClmm.decodeAndCalculate, bind_eq_bind, bind_eq_some_iff, ite_none_left_eq_some,
    Option.some.injEq] at hresult
  obtain ⟨account, haccount, info, hinfo, sides, hsides, -, sol, hsolBalance, token, htokenBalance,
    decimals, hdecimals, -, price, hprice, rfl⟩ := hresult
  rw [haccount, bind_some, quoted_clmm hinfo] at hquoted
  obtain rfl := Option.some.inj hquoted
  obtain rfl := Option.some.inj ((sides_clmm _ info hsol).symm.trans hsides)
  exact ⟨decimals, sol, token, ⟨hdecimals, hsolBalance, htokenBalance⟩,
    (eq_of_positive hprice).trans (wholePrice_clmm info decimals)⟩

lemma priceSol_whirlpool
    (hresult : OrcaWhirlpool.decodeAndCalculate cache accounts = some result)
    (hquoted : (accounts.poolAccount OrcaWhirlpool.programId).bind
      (fun account => quoted .orcaWhirlpool account.data) = some pool) (hsol : pool.HasSol) :
    ∃ tokenDecimals solBalance tokenBalance,
      PricedFrom cache accounts pool tokenDecimals solBalance tokenBalance ∧
        result.priceSol = pool.wholePrice tokenDecimals := by
  simp only [OrcaWhirlpool.decodeAndCalculate, bind_eq_bind, bind_eq_some_iff,
    ite_none_left_eq_some, Option.some.injEq] at hresult
  obtain ⟨account, haccount, info, hinfo, sides, hsides, sol, hsolBalance, token, htokenBalance, -,
    decimals, hdecimals, price, hprice, checked, hchecked, rfl⟩ := hresult
  rw [haccount, bind_some, quoted_whirlpool hinfo] at hquoted
  obtain rfl := Option.some.inj hquoted
  obtain rfl := Option.some.inj ((sides_whirlpool _ info hsol).symm.trans hsides)
  exact ⟨decimals, sol, token, ⟨hdecimals, hsolBalance, htokenBalance⟩,
    (eq_of_positive hchecked).trans (wholePrice_whirlpool hprice)⟩

lemma wholePrice_dlmm {info : DlmmPoolInfo} {tokenDecimals : ℕ} {price : K}
    (hpool : pool = ⟨info.tokenXMint, info.tokenYMint, info.reserveX, info.reserveY,
      (1 + (info.binStep : K) / 10000) ^ info.activeId⟩) (hsol : pool.HasSol)
    (hdecimals : cache pool.token = some tokenDecimals)
    (h : MeteoraDlmm.calculateDlmmPrice cache info pool.token = some price) :
    price = pool.wholePrice tokenDecimals := by
  subst hpool
  obtain ⟨hsecond, hfirst⟩ | ⟨hfirst, hsecond⟩ := hsol
  · have hne : info.tokenXMint ≠ solMint := Quoted.ne_solMint_of_isSolMint hfirst
    simp only [Quoted.token] at hsecond hdecimals h
    rw [if_pos hsecond] at hdecimals h
    simp only [MeteoraDlmm.calculateDlmmPrice, MeteoraDlmm.decimals, hne, hsecond, hdecimals,
      if_true, if_false, getD_some, Option.some.injEq] at h
    simp [← h, Quoted.wholePrice, Quoted.solPrice, hsecond]
  · have hne : info.tokenYMint ≠ solMint := Quoted.ne_solMint_of_isSolMint hsecond
    simp only [Quoted.token] at hfirst hdecimals h
    rw [if_neg hne] at hdecimals h
    have hother : info.tokenXMint ≠ info.tokenYMint := fun heq => hne (heq ▸ hfirst)
    simp only [MeteoraDlmm.calculateDlmmPrice, MeteoraDlmm.decimals, hne, hfirst, hdecimals,
      hne.symm, if_true, if_false, getD_some] at h
    split at h
    · simp only [Option.some.injEq] at h
      simp [← h, Quoted.wholePrice, Quoted.solPrice, hne, inv_scale, mul_comm]
    · cases h

lemma priceSol_dlmm
    (hresult : MeteoraDlmm.decodeAndCalculate cache accounts baseMint quoteMint = some result)
    (hquoted : (accounts.poolAccount MeteoraDlmm.programId).bind
      (fun account => quoted .meteoraDlmm account.data) = some pool) (hsol : pool.HasSol) :
    ∃ tokenDecimals solBalance tokenBalance,
      PricedFrom cache accounts pool tokenDecimals solBalance tokenBalance ∧
        result.priceSol = pool.wholePrice tokenDecimals := by
  simp only [MeteoraDlmm.decodeAndCalculate, bind_eq_bind, bind_eq_some_iff, ite_none_left_eq_some,
    Option.some.injEq] at hresult
  obtain ⟨account, haccount, info, hinfo, sides, hsides, -, sol, hsolBalance, token, htokenBalance, -,
    decimals, hdecimals, price, hprice, -, checked, hchecked, rfl⟩ := hresult
  rw [haccount, bind_some, quoted_dlmm hinfo] at hquoted
  have hpool := (Option.some.inj hquoted).symm
  obtain rfl : pool.sides = sides := by
    rw [hpool] at hsol ⊢
    exact Option.some.inj ((sides_dlmm _ info hsol).symm.trans hsides)
  exact ⟨decimals, sol, token, ⟨hdecimals, hsolBalance, htokenBalance⟩,
    (eq_of_positive hchecked).trans (wholePrice_dlmm hpool hsol hdecimals hprice)⟩

/-! ## DAMM pools -/

/-- What is shown for a DAMM pool at a quoted price: with one SOL the price, or the ratio of the
vaults where it is more than four times that; with less a multiple of it within bounds. -/
def Corrected (quotedPrice ratio : K) (solBalance : ℕ) (price : K) : Prop :=
  (1000000000 ≤ solBalance → price = MeteoraDamm.nearer quotedPrice ratio) ∧
    ∃ factor : K, 1 / 20 ≤ factor ∧ factor ≤ 3 / 2 ∧
      price = MeteoraDamm.nearer quotedPrice ratio * factor

variable [IsStrictOrderedRing K]

lemma priceSol_damm
    (hresult : MeteoraDamm.decodeAndCalculate powf cache accounts baseMint quoteMint = some result)
    (hquoted : (accounts.poolAccount MeteoraDamm.programId).bind
      (fun account => quoted .meteoraDamm account.data) = some pool) (hsol : pool.HasSol) :
    ∃ tokenDecimals solBalance tokenBalance,
      PricedFrom cache accounts pool tokenDecimals solBalance tokenBalance ∧
        (pool.second = solMint ∨ tokenDecimals = solDecimals →
          Corrected (pool.wholePrice tokenDecimals)
            (MeteoraDamm.vaultRatio solBalance tokenBalance tokenDecimals) solBalance
            result.priceSol) := by
  simp only [MeteoraDamm.decodeAndCalculate, bind_eq_bind, bind_eq_some_iff, ite_none_left_eq_some,
    Option.some.injEq] at hresult
  obtain ⟨account, haccount, info, hinfo, sides, hsides, -, sol, hsolBalance, token, htokenBalance, -,
    decimals, hdecimals, -, -, -, rfl⟩ := hresult
  rw [haccount, bind_some] at hquoted
  obtain ⟨rfl, hpos⟩ := quoted_damm hinfo hquoted
  obtain rfl := Option.some.inj ((sides_damm _ info hsol).symm.trans hsides)
  refine ⟨decimals, sol, token, ⟨hdecimals, hsolBalance, htokenBalance⟩, fun hside => ?_⟩
  -- the base price is the quoted one, as far as the vaults bear it out
  have horiented : (MeteoraDamm.orientedPrice info.sqrtPrice (decide (info.tokenBMint = solMint))
      decimals : K) = Quoted.wholePrice ⟨info.tokenAMint, info.tokenBMint, info.tokenAVault,
        info.tokenBVault, squared info.sqrtPrice⟩ decimals := by
    rw [MeteoraDamm.orientedPrice_eq _ _ _ (by simpa using hside) hpos]
    simp [Quoted.wholePrice, Quoted.solPrice, squared]
  have hnonneg : (0 : K) ≤ Quoted.wholePrice ⟨info.tokenAMint, info.tokenBMint, info.tokenAVault,
      info.tokenBVault, squared info.sqrtPrice⟩ decimals := by
    unfold Quoted.wholePrice Quoted.solPrice squared
    split <;> positivity
  have hbase : (MeteoraDamm.basePriceSol info (decide (info.tokenBMint = solMint)) sol token
      decimals : K) = MeteoraDamm.nearer (Quoted.wholePrice ⟨info.tokenAMint, info.tokenBMint,
        info.tokenAVault, info.tokenBVault, squared info.sqrtPrice⟩ decimals)
          (MeteoraDamm.vaultRatio sol token decimals) := by
    rw [MeteoraDamm.basePriceSol, if_pos hpos, horiented, MeteoraDamm.nearVaults_eq hnonneg]
  unfold Corrected
  rw [← hbase]
  exact MeteoraDamm.finalPrice_cases powf info sol _ _

/-! ## Monitored prices -/

variable (powf cache)

/-- A decoder returns a price for a pool that its venue quotes, with SOL as one of the two
tokens. -/
structure Monitored (kind : PoolKind) (accounts : Accounts) (result : PriceResult K)
    (pool : Quoted K) : Prop where
  result : ∃ baseMint quoteMint, decodePool powf cache kind accounts baseMint quoteMint = some result
  quoted : (accounts.poolAccount kind.programId).bind (fun account => quoted kind account.data) =
    some pool
  sol : pool.HasSol

/-- The price is the quoted one. A DAMM pool's is what the corrections leave of it, with SOL as its
second token or a token of nine decimals. -/
def Faithful (kind : PoolKind) (pool : Quoted K) (tokenDecimals solBalance tokenBalance : ℕ)
    (price : K) : Prop :=
  if kind = .meteoraDamm then
    pool.second = solMint ∨ tokenDecimals = solDecimals →
      Corrected (pool.wholePrice tokenDecimals)
        (MeteoraDamm.vaultRatio solBalance tokenBalance tokenDecimals) solBalance price
  else price = pool.wholePrice tokenDecimals

lemma faithful_of_monitored {kind : PoolKind} {accounts : Accounts} {result : PriceResult K}
    {pool : Quoted K} (h : Monitored powf cache kind accounts result pool) :
    ∃ tokenDecimals solBalance tokenBalance,
      PricedFrom cache accounts pool tokenDecimals solBalance tokenBalance ∧
        Faithful kind pool tokenDecimals solBalance tokenBalance result.priceSol := by
  obtain ⟨baseMint, quoteMint, hresult⟩ := h.result
  cases kind with
  | raydiumClmm => exact priceSol_clmm hresult h.quoted h.sol
  | orcaWhirlpool => exact priceSol_whirlpool hresult h.quoted h.sol
  | meteoraDlmm => exact priceSol_dlmm hresult h.quoted h.sol
  | meteoraDamm => exact priceSol_damm hresult h.quoted h.sol

/-- **Monitored prices agree with the venues**: each is the quoted price, but for what the DAMM
decoder corrects, and a pool and its mirror image have one price. -/
theorem monitored_prices (kind : PoolKind) (accounts : Accounts) (result : PriceResult K)
    (pool : Quoted K) (h : Monitored powf cache kind accounts result pool) :
    (∃ tokenDecimals solBalance tokenBalance,
      PricedFrom cache accounts pool tokenDecimals solBalance tokenBalance ∧
        Faithful kind pool tokenDecimals solBalance tokenBalance result.priceSol) ∧
      ∀ other mirrored, kind ≠ .meteoraDamm → Monitored powf cache kind other mirrored pool.mirror →
        mirrored.priceSol = result.priceSol := by
  refine ⟨faithful_of_monitored powf cache h, fun other mirrored hkind hmirrored => ?_⟩
  obtain ⟨decimals, _, _, hfrom, hprice⟩ := faithful_of_monitored powf cache h
  obtain ⟨decimals', _, _, hfrom', hprice'⟩ := faithful_of_monitored powf cache hmirrored
  obtain ⟨htoken, hsolPrice⟩ := Quoted.solPrice_mirror h.sol
  have hsame : cache pool.token = some decimals' := htoken ▸ hfrom'.decimals
  obtain rfl : decimals' = decimals := Option.some.inj (hsame.symm.trans hfrom.decimals)
  simp only [Faithful, hkind, if_false] at hprice hprice'
  rw [hprice, hprice', Quoted.wholePrice, Quoted.wholePrice, hsolPrice]

/-! ## Pools in bytes -/

/-- So many bytes of a number. -/
def toLeBytes : ℕ → ℕ → List UInt8
  | _, 0 => []
  | n, size + 1 => UInt8.ofNat (n % 256) :: toLeBytes (n / 256) size

/-- Zeros that nothing reads. -/
def zeros (size : ℕ) : List UInt8 := List.replicate size 0

/-- A token account. -/
def tokenAccount (mint : Pubkey) (amount : ℕ) : List UInt8 :=
  mint.bytes ++ zeros 32 ++ toLeBytes amount 8

/-- The accounts of a pool with SOL in the vault 3 and a token in the vault 4. -/
def bundle (program : Pubkey) (data : List UInt8) (solBalance tokenBalance : ℕ) : Accounts :=
  [(repeated 2, ⟨repeated 2, program, data, 0, 0⟩),
    (repeated 3, ⟨repeated 3, systemProgramId, tokenAccount solMint solBalance, 0, 0⟩),
    (repeated 4, ⟨repeated 4, systemProgramId, tokenAccount (repeated 1) tokenBalance, 0, 0⟩)]

/-- A DLMM pool account of a token and SOL. -/
def dlmmData (activeId binStep : ℕ) : List UInt8 :=
  zeros 76 ++ toLeBytes activeId 4 ++ toLeBytes binStep 2 ++ zeros 6 ++ (repeated 1).bytes ++
    solMint.bytes ++ (repeated 4).bytes ++ (repeated 3).bytes

/-- A pool of a token and SOL, two bins of half a per cent up. -/
def twoBins : Quoted ℚ :=
  ⟨repeated 1, solMint, repeated 4, repeated 3, (1 + 50 / 10000) ^ (2 : ℤ)⟩

/-- The token has twelve decimals. -/
theorem monitored_prices_twoBins :
    ∃ result, Monitored (fun x _ => x) (fun _ => some 12) .meteoraDlmm
        (bundle MeteoraDlmm.programId (dlmmData 2 50) 5 7) result twoBins ∧
      ∃ tokenDecimals solBalance tokenBalance,
        PricedFrom (fun _ => some 12) (bundle MeteoraDlmm.programId (dlmmData 2 50) 5 7) twoBins
          tokenDecimals solBalance tokenBalance ∧
        Faithful .meteoraDlmm twoBins tokenDecimals solBalance tokenBalance result.priceSol := by
  have hsome : (decodePool (fun x _ => x) (fun _ => some 12) .meteoraDlmm
      (bundle MeteoraDlmm.programId (dlmmData 2 50) 5 7) (repeated 1) solMint :
        Option (PriceResult ℚ)).isSome = true := by decide +kernel
  obtain ⟨result, hresult⟩ := isSome_iff_exists.mp hsome
  have hmonitored : Monitored (fun x _ => x) (fun _ => some 12) .meteoraDlmm
      (bundle MeteoraDlmm.programId (dlmmData 2 50) 5 7) result twoBins :=
    { result := ⟨repeated 1, solMint, hresult⟩
      quoted := by decide +kernel
      sol := .inl ⟨rfl, by decide +kernel⟩ }
  exact ⟨result, hmonitored, (monitored_prices _ _ .meteoraDlmm _ _ _ hmonitored).1⟩

/-- A DAMM pool account. -/
def dammData (mintA mintB vaultA vaultB : Pubkey) (sqrtMinPrice sqrtMaxPrice sqrtPrice : ℕ) :
    List UInt8 :=
  zeros 168 ++ mintA.bytes ++ mintB.bytes ++ vaultA.bytes ++ vaultB.bytes ++ zeros 24 ++
    toLeBytes 1 16 ++ zeros 24 ++ toLeBytes 1 16 ++ zeros 48 ++ toLeBytes sqrtMinPrice 16 ++
    toLeBytes sqrtMaxPrice 16 ++ toLeBytes sqrtPrice 16 ++ zeros 640

variable (solSecond : Bool)

/-- The accounts of a DAMM pool with SOL as its second token or as its first, at a ratio of one. -/
def dammAccounts (solBalance tokenBalance : ℕ) : Accounts :=
  bundle MeteoraDamm.programId
    (if solSecond then
      dammData (repeated 1) solMint (repeated 4) (repeated 3) (2 ^ 63) (3 * 2 ^ 63) (2 ^ 64)
    else dammData solMint (repeated 1) (repeated 3) (repeated 4) (2 ^ 63) (3 * 2 ^ 63) (2 ^ 64))
    solBalance tokenBalance

/-- What its venue quotes it from. -/
def dammQuoted : Quoted ℚ :=
  if solSecond then ⟨repeated 1, solMint, repeated 4, repeated 3, 1⟩
  else ⟨solMint, repeated 1, repeated 3, repeated 4, 1⟩

lemma wholePrice_dammQuoted (tokenDecimals : ℕ) :
    (dammQuoted solSecond).wholePrice tokenDecimals = 10 ^ ((tokenDecimals : ℤ) - 9) := by
  have hne : repeated 1 ≠ solMint := by decide
  cases solSecond with
  | true => simp [dammQuoted, Quoted.wholePrice, Quoted.solPrice, solDecimals]
  | false => simp [dammQuoted, Quoted.wholePrice, Quoted.solPrice, solDecimals, hne]

/-- The decoder's price of such a pool. -/
def dammPrice (tokenDecimals solBalance tokenBalance : ℕ) : Option ℚ :=
  (decodePool (fun x _ => x) (fun _ => some tokenDecimals) .meteoraDamm
    (dammAccounts solSecond solBalance tokenBalance) (repeated 1) solMint).map (·.priceSol)

lemma monitored_damm {solSecond : Bool} {tokenDecimals solBalance tokenBalance : ℕ} {price : ℚ}
    (hprice : dammPrice solSecond tokenDecimals solBalance tokenBalance = some price)
    (hquoted : ((dammAccounts solSecond solBalance tokenBalance).poolAccount
      MeteoraDamm.programId).bind (fun account => quoted .meteoraDamm account.data) =
        some (dammQuoted solSecond)) :
    ∃ accounts result pool,
      Monitored (fun x _ => x) (fun _ => some tokenDecimals) .meteoraDamm accounts result pool ∧
        result.priceSol = price ∧ pool.wholePrice tokenDecimals = 10 ^ ((tokenDecimals : ℤ) - 9) := by
  obtain ⟨result, hresult, hpriceSol⟩ := map_eq_some_iff.mp hprice
  refine ⟨_, result, dammQuoted solSecond, ⟨⟨_, _, hresult⟩, hquoted, ?_⟩, hpriceSol,
    wholePrice_dammQuoted solSecond tokenDecimals⟩
  cases solSecond with
  | true => exact .inl ⟨rfl, by decide⟩
  | false => exact .inr ⟨rfl, by decide⟩

/-- **The monitored price is not the quoted one** for DAMM pools that are quoted at one raw SOL for
a raw unit of the token: with a token of twelve decimals, whose whole units are worth 1000 SOL, it
is a thousandth of a SOL when SOL is the first token; with vaults in a ratio of one to ten it is
their ratio; with half a SOL it is corrected down. -/
theorem not_monitored_prices :
    (∃ accounts result pool,
      Monitored (fun (x _ : ℚ) => x) (fun _ => some 12) .meteoraDamm accounts result pool ∧
        result.priceSol = 1 / 1000 ∧ pool.wholePrice 12 = 1000) ∧
    (∃ accounts result pool,
      Monitored (fun (x _ : ℚ) => x) (fun _ => some 9) .meteoraDamm accounts result pool ∧
        result.priceSol = 1 / 10 ∧ pool.wholePrice 9 = 1) ∧
    ∃ accounts result pool,
      Monitored (fun (x _ : ℚ) => x) (fun _ => some 9) .meteoraDamm accounts result pool ∧
        result.priceSol = 21 / 40 ∧ pool.wholePrice 9 = 1 := by
  have hinverted : dammPrice false 12 (2 * 10 ^ 9) (2 * 10 ^ 9) = some (1 / 1000) := by decide +kernel
  have hvaults : dammPrice true 9 (10 ^ 9) (10 ^ 10) = some (1 / 10) := by decide +kernel
  have hsmall : dammPrice true 9 (5 * 10 ^ 8) (5 * 10 ^ 8) = some (21 / 40) := by decide +kernel
  have hthousand : (10 : ℚ) ^ 3 = 1000 := by norm_num
  refine ⟨?_, ?_, ?_⟩
  · simpa [hthousand] using monitored_damm hinverted (by decide +kernel)
  · simpa using monitored_damm hvaults (by decide +kernel)
  · simpa using monitored_damm hsmall (by decide +kernel)

end Dripline.Pools
