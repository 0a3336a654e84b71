import Dripline.Pools.Analyzer
import Dripline.Pools.PoolStates
import Dripline.Pools.Prices

/-!
# The accounts that a pool waits for

`chains/solana/pools/fetcher_ops.rs`, `handle_missing_accounts`; the vaults of the decoders against
those of the venues.

* `waits_iff` — the one exactly when the other.

A source without a file is in `fetcher_ops.rs`.
-/

namespace Dripline.Pools

open List

/-! ## The vaults of a venue -/

/-- The vaults that the venue of a program decodes; a curve has none. Source: `swaps/direct/venues`,
`decode` -/
def venueVaults (kind : ProgramKind) (data : List UInt8) : Option (List Pubkey) :=
  match kind with
  | .raydiumCpmm => (CpmmPoolState.decode data).map fun state => [state.vault0, state.vault1]
  | .raydiumLegacyAmm => (AmmV4PoolState.decode data).map fun state => [state.coinVault, state.pcVault]
  | .raydiumClmm => do
    let state ← ClmmPoolState.decode data
    -- the last field that is read
    let _status ← uintAt data 389 1
    some [state.vault0, state.vault1]
  | .orcaWhirlpool => (WhirlpoolState.decode data).map fun state => [state.vaultA, state.vaultB]
  | .meteoraDamm => do
    let state ← DammPoolState.decode data
    let _collectFeeMode ← uintAt data 484 1
    some [state.vaultA, state.vaultB]
  | .meteoraDlmm => do
    let state ← LbPairState.decode data
    let _oracle ← pubkeyAt data 552
    some [state.reserveX, state.reserveY]
  | .meteoraDbc => (VirtualPoolState.decode data).map fun state => [state.baseVault, state.quoteVault]
  | .pumpFunAmm =>
    (PumpAmmPoolState.decode data).map fun state => [state.baseTokenAccount, state.quoteTokenAccount]
  | .fluxbeamAmm => (FluxbeamPoolState.decode data).map fun state => [state.vaultA, state.vaultB]
  | .pumpFunLegacy => (BondingCurve.decode data).map fun _ => []
  | .moonit => (CurveAccountState.decode data).map fun _ => []
  | .unknown => none

/-! ## Accounts that are missing -/

/-- Source: `fetcher_types.rs`, `MissingAccountState`, `MissingPoolState` -/
structure MissingState where
  failures : ℕ
  lastFailure : ℕ
  blacklisted : Bool

/-- One more miss. Source: `handle_missing_accounts` -/
def MissingState.missed (state : Option MissingState) (now : ℕ) : MissingState where
  failures := min (state.elim 0 (·.failures) + 1) (2 ^ 32 - 1)
  lastFailure := now
  blacklisted := state.elim false (·.blacklisted)

/-- The misses of accounts and of pools, and the pools that were blacklisted, each with the account
it was for. -/
structure Trackers where
  accounts : Pubkey → Option MissingState
  pools : Pubkey → Option MissingState
  blacklisted : List (Pubkey × Pubkey)

/-- What accounts are missing, when, and what the rest of the program has then: the descriptors by
pool, the thresholds, and whether an entry of a blacklist is stored. -/
structure Misses where
  missing : List Pubkey
  now : ℕ
  directory : List (Pubkey × PoolDescriptor)
  accountBlacklistThreshold : ℕ
  poolBlacklistThreshold : ℕ
  accountStored : Pubkey → Bool
  poolStored : Pubkey → Bool

namespace Misses

variable (misses : Misses)

/-- Source: `handle_missing_accounts`, the loop over the pools of an account -/
def missPool (account : Pubkey) (trackers : Trackers) (poolId : Pubkey) : Trackers :=
  let state := MissingState.missed (trackers.pools poolId) misses.now
  if misses.poolBlacklistThreshold ≤ state.failures ∧ state.blacklisted = false ∧
      misses.poolStored poolId = true then
    { trackers with
      pools := Function.update trackers.pools poolId (some { state with blacklisted := true })
      blacklisted := trackers.blacklisted ++ [(poolId, account)] }
  else { trackers with pools := Function.update trackers.pools poolId (some state) }

/-- Source: `handle_missing_accounts`, the loop over the accounts -/
def missAccount (trackers : Trackers) (account : Pubkey) : Trackers :=
  let state := MissingState.missed (trackers.accounts account) misses.now
  let blacklisted := state.blacklisted ||
    (decide (misses.accountBlacklistThreshold ≤ state.failures) && misses.accountStored account)
  let counted :=
    { trackers with
      accounts := Function.update trackers.accounts account (some { state with blacklisted }) }
  ((misses.directory.filter fun entry => entry.2.reserveAccounts.contains account).map (·.1)).foldl
    (misses.missPool account) counted

/-- Source: `handle_missing_accounts` -/
def handleMissingAccounts (trackers : Trackers) : Trackers :=
  misses.missing.foldl misses.missAccount trackers

end Misses

/-- Entries that are old enough are dropped, unless they are blacklisted. Source:
`cleanup_missing_failure_trackers` -/
def Trackers.cleanup (trackers : Trackers) (failureWindowSecs now : ℕ) : Trackers :=
  let kept (state : Option MissingState) : Option MissingState :=
    state.filter fun state => state.blacklisted || decide (now - state.lastFailure ≤ failureWindowSecs)
  { trackers with
    accounts := kept ∘ trackers.accounts
    pools := kept ∘ trackers.pools }

/-- A batch after another: its misses are counted, and the old ones dropped. Source:
`process_pending_accounts` -/
def runBatches (failureWindowSecs : ℕ) (batches : List Misses) : Trackers :=
  batches.foldl
    (fun trackers misses => (misses.handleMissingAccounts trackers).cleanup failureWindowSecs
      misses.now)
    ⟨fun _ => none, fun _ => none, []⟩

/-! ## What a pool waits for -/

/-- An account is part of a pool: its own, a vault, or a mint that it was discovered with. -/
def AnalyzePool.IsPart (message : AnalyzePool) (vaults : List Pubkey) (account : Pubkey) : Prop :=
  account = message.poolId ∨ account ∈ vaults ∨ account = message.baseMint ∨
    account = message.quoteMint

/-- A pool of a kind, with some data, is analyzed. -/
def Analyzed (kind : ProgramKind) (data : List UInt8) (message : AnalyzePool)
    (descriptor : PoolDescriptor) : Prop :=
  ∃ owner program account, message.actualProgramId owner = some program ∧
    ProgramKind.fromProgramId program = kind ∧ account.data = data ∧
      message.analyzePool owner (.found account) = some descriptor

/-- The keys that a decoder names are the vaults. -/
def Exact (kind : ProgramKind) (data : List UInt8) (vaults : List Pubkey) : Prop :=
  ∃ keys, kind.vaults data = some keys ∧ ∀ key, key ∈ keys ↔ key ∈ vaults

/-- The decoder names the vaults, and no more; so a bundle that is complete has both, a pool is held
back only for an account that is part of it, and so it is blacklisted. SOL and the system program
are no accounts. -/
structure Waits (kind : ProgramKind) (data : List UInt8) (vaults : List Pubkey) : Prop where
  exact : Exact kind data vaults
  complete : ∀ message descriptor, Analyzed kind data message descriptor →
    ∀ bundle : PoolAccountBundle, bundle.isComplete descriptor.reserveAccounts = true →
      ∀ vault ∈ vaults, vault ≠ solMint → vault ≠ systemProgramId → (bundle.accounts.get vault).isSome
  heldBack : ∀ message descriptor, Analyzed kind data message descriptor →
    ∀ bundle : PoolAccountBundle, bundle.isComplete descriptor.reserveAccounts = false →
      ∃ account, message.IsPart vaults account ∧ bundle.accounts.get account = none
  blacklisted : ∀ message descriptor, Analyzed kind data message descriptor →
    ∀ failureWindowSecs batches,
      (∀ misses ∈ batches, ∀ entry ∈ (misses : Misses).directory,
        entry.1 = message.poolId → entry.2 = descriptor) →
      ∀ account, (message.poolId, account) ∈ (runBatches failureWindowSecs batches).blacklisted →
        message.IsPart vaults account

/-- Two neighbours that the scan takes for vaults: neither is all zero, and both print in 44
characters. Source: `meteora_dbc.rs`, `extract_reserve_accounts` -/
def PlausibleVaults (data : List UInt8) (offset : ℕ) : Prop :=
  ∃ vault1 vault2, pubkeyAt data offset = some vault1 ∧ pubkeyAt data (offset + 32) = some vault2 ∧
    vault1 ≠ systemProgramId ∧ vault2 ≠ systemProgramId ∧ MeteoraDbc.textLength vault1 = 44 ∧
      MeteoraDbc.textLength vault2 = 44

/-- When the decoder names the vaults: for a CLMM, Orca or DAMM pool, its account is as large as the
decoder wants it; for a Pump.fun AMM, the pair is of a token and SOL; for a legacy AMM, what stands
across the vaults and across the second vault and the first mint are vaults too; for a DBC pool, the
first plausible neighbours are the vaults. -/
def NamesVaults (kind : ProgramKind) (data : List UInt8) (vaults : List Pubkey) : Prop :=
  match kind with
  | .raydiumClmm => 800 ≤ data.length
  | .orcaWhirlpool => 653 ≤ data.length
  | .meteoraDamm => 1112 ≤ data.length
  | .pumpFunAmm => ∃ mint1 mint2, pubkeyAt data 43 = some mint1 ∧ pubkeyAt data 75 = some mint2 ∧
      isStablecoinMint mint1 = false ∧ isStablecoinMint mint2 = false ∧
        isSolMint mint1 ≠ isSolMint mint2
  | .raydiumLegacyAmm => ∀ offset ∈ [0x160, 0x180], ∀ key, pubkeyAt data offset = some key →
      key ∈ vaults
  | .meteoraDbc => 424 ≤ data.length ∧ ∃ before offset after,
      [32, 64, 96, 128, 160, 192] = before ++ offset :: after ∧
        (∀ earlier ∈ before, ¬ PlausibleVaults data earlier) ∧ PlausibleVaults data offset ∧
          ∀ key, (pubkeyAt data offset = some key ∨ pubkeyAt data (offset + 32) = some key) ↔
            key ∈ vaults
  | .raydiumCpmm | .meteoraDlmm | .fluxbeamAmm | .pumpFunLegacy | .moonit | .unknown => True

/-! ## A pool that is analyzed -/

section Analysis

variable {kind : ProgramKind} {data : List UInt8} {message : AnalyzePool} {descriptor : PoolDescriptor}
  {keys : List Pubkey}

lemma extractReserveAccounts_of_vaults {account : Account}
    (hkeys : kind.vaults account.data = some keys) {reserves : List Pubkey}
    (h : message.extractReserveAccounts (.found account) kind = some reserves) :
    (∀ key ∈ reserves, message.IsPart keys key) ∧ ∀ key ∈ keys, key ∈ reserves := by
  have hfound : AnalyzePool.vaultsIfFound (.found account) kind = keys := by
    simp [AnalyzePool.vaultsIfFound, RpcAnswer.account, hkeys]
  have hrequired : message.requiredAccounts (.found account) kind = some (message.reserves keys) := by
    simp [AnalyzePool.requiredAccounts, RpcAnswer.account, hkeys]
  have hall : (∀ key ∈ message.reserves keys, message.IsPart keys key) ∧
      ∀ key ∈ keys, key ∈ message.reserves keys := by
    constructor
    · intro key hkey
      simpa [AnalyzePool.reserves, AnalyzePool.IsPart] using hkey
    · intro key hkey
      simp [AnalyzePool.reserves, hkey]
  cases kind
  case raydiumCpmm | meteoraDlmm | fluxbeamAmm =>
    rw [AnalyzePool.extractReserveAccounts, hrequired, Option.some_inj] at h
    rwa [← h]
  case raydiumLegacyAmm | raydiumClmm | orcaWhirlpool | meteoraDamm | meteoraDbc =>
    rw [AnalyzePool.extractReserveAccounts, hfound, Option.some_inj] at h
    rwa [← h]
  case pumpFunAmm =>
    rw [AnalyzePool.extractReserveAccounts, hfound, Option.some_inj] at h
    rw [← h]
    constructor
    · intro key hkey
      rcases mem_cons.mp hkey with rfl | hkey
      · exact Or.inl rfl
      · exact Or.inr (Or.inl hkey)
    · intro key hkey
      exact mem_cons_of_mem _ hkey
  case pumpFunLegacy | moonit =>
    obtain rfl : [] = keys := Option.some.inj hkeys
    rw [AnalyzePool.extractReserveAccounts, Option.some_inj] at h
    rw [← h]
    simp [AnalyzePool.IsPart]
  case unknown => cases h

lemma reserveAccounts_of_analyzed (h : Analyzed kind data message descriptor)
    (hkeys : kind.vaults data = some keys) :
    (∀ key ∈ descriptor.reserveAccounts, message.IsPart keys key) ∧
      ∀ key ∈ keys, key ∈ descriptor.reserveAccounts := by
  obtain ⟨owner, program, account, hprogram, rfl, rfl, hanalyzed⟩ := h
  rw [AnalyzePool.analyzePool, hprogram, Option.bind_eq_bind, Option.bind_some] at hanalyzed
  dsimp only at hanalyzed
  rw [Option.ite_none_left_eq_some, Option.bind_eq_bind, Option.bind_eq_some_iff] at hanalyzed
  obtain ⟨-, reserves, hreserves, hdescriptor⟩ := hanalyzed
  rw [← Option.some.inj hdescriptor]
  exact extractReserveAccounts_of_vaults hkeys hreserves

end Analysis

/-! ## A pool that is blacklisted -/

section Blacklisting

variable {misses : Misses} {trackers : Trackers} {pool account : Pubkey}

/-- A pool is blacklisted for an account that it waits for. -/
def Misses.Blames (misses : Misses) (entry : Pubkey × Pubkey) : Prop :=
  ∃ listed ∈ misses.directory, listed.1 = entry.1 ∧ entry.2 ∈ listed.2.reserveAccounts

lemma mem_blacklisted_missPools {pools : List Pubkey} {missing : Pubkey}
    (h : (pool, account) ∈ (pools.foldl (misses.missPool missing) trackers).blacklisted) :
    (pool, account) ∈ trackers.blacklisted ∨ account = missing ∧ pool ∈ pools := by
  induction pools generalizing trackers with
  | nil => exact Or.inl h
  | cons first rest ih =>
    rcases ih h with hmem | ⟨rfl, hmem⟩
    · unfold Misses.missPool at hmem
      dsimp only at hmem
      split at hmem
      · rcases mem_append.mp hmem with hmem | hmem
        · exact Or.inl hmem
        · obtain ⟨rfl, rfl⟩ := Prod.mk.inj (mem_singleton.mp hmem)
          exact Or.inr ⟨rfl, mem_cons_self⟩
      · exact Or.inl hmem
    · exact Or.inr ⟨rfl, mem_cons_of_mem _ hmem⟩

lemma mem_blacklisted_handle {missing : List Pubkey}
    (h : (pool, account) ∈ (missing.foldl misses.missAccount trackers).blacklisted) :
    (pool, account) ∈ trackers.blacklisted ∨ misses.Blames (pool, account) := by
  induction missing generalizing trackers with
  | nil => exact Or.inl h
  | cons first rest ih =>
    rcases ih h with hmem | hblames
    · rcases mem_blacklisted_missPools hmem with hmem | ⟨rfl, hpool⟩
      · exact Or.inl hmem
      · obtain ⟨listed, hlisted, rfl⟩ := mem_map.mp hpool
        obtain ⟨hmem, hwaits⟩ := mem_filter.mp hlisted
        exact Or.inr ⟨listed, hmem, rfl, by simpa using hwaits⟩
    · exact Or.inr hblames

lemma blames_of_runBatches {failureWindowSecs : ℕ} {batches : List Misses}
    (h : (pool, account) ∈ (runBatches failureWindowSecs batches).blacklisted) :
    ∃ misses ∈ batches, misses.Blames (pool, account) := by
  unfold runBatches at h
  induction batches using List.reverseRecOn with
  | nil => cases h
  | append_singleton batches misses ih =>
    rw [foldl_append, foldl_cons, foldl_nil] at h
    rcases mem_blacklisted_handle h with hmem | hblames
    · obtain ⟨earlier, hearlier, hblames⟩ := ih hmem
      exact ⟨earlier, mem_append_left _ hearlier, hblames⟩
    · exact ⟨misses, mem_append_right _ (mem_singleton_self _), hblames⟩

end Blacklisting

lemma waits_of_exact {kind : ProgramKind} {data : List UInt8} {vaults : List Pubkey}
    (h : Exact kind data vaults) : Waits kind data vaults := by
  obtain ⟨keys, hkeys, hsame⟩ := h
  have hpart : ∀ message descriptor, Analyzed kind data message descriptor →
      ∀ key ∈ descriptor.reserveAccounts, message.IsPart vaults key := by
    intro message descriptor hanalyzed key hkey
    have := (reserveAccounts_of_analyzed hanalyzed hkeys).1 key hkey
    simpa only [AnalyzePool.IsPart, hsame] using this
  refine ⟨⟨keys, hkeys, hsame⟩, ?_, ?_, ?_⟩
  · intro message descriptor hanalyzed bundle hcomplete vault hvault hsol hsystem
    have hmem := (reserveAccounts_of_analyzed hanalyzed hkeys).2 vault ((hsame vault).mpr hvault)
    rw [PoolAccountBundle.isComplete, all_eq_true] at hcomplete
    exact hcomplete vault (mem_filter.mpr ⟨hmem, by simp [hsol, hsystem]⟩)
  · intro message descriptor hanalyzed bundle hincomplete
    rw [PoolAccountBundle.isComplete, all_eq_false] at hincomplete
    obtain ⟨key, hkey, hmissing⟩ := hincomplete
    refine ⟨key, hpart message descriptor hanalyzed key (mem_filter.mp hkey).1, ?_⟩
    simpa using hmissing
  · intro message descriptor hanalyzed failureWindowSecs batches hlisted account hblacklisted
    obtain ⟨misses, hmisses, listed, hmem, hpool, hwaits⟩ := blames_of_runBatches hblacklisted
    rw [hlisted misses hmisses listed hmem hpool] at hwaits
    exact hpart message descriptor hanalyzed account hwaits

/-! ## A decoder that names the vaults -/

section Exact

variable {data : List UInt8} {vaults : List Pubkey} {offset size : ℕ}

lemma le_length_of_pubkeyAt {key : Pubkey} (h : pubkeyAt data offset = some key) :
    offset + 32 ≤ data.length := by
  unfold pubkeyAt at h
  split at h
  case isTrue hle => exact hle
  case isFalse => cases h

lemma exists_pubkeyAt (h : offset + 32 ≤ data.length) : ∃ key, pubkeyAt data offset = some key :=
  ⟨_, dif_pos h⟩

lemma exact_iff_of_size {kind : ProgramKind} {least : ℕ}
    (h : kind.vaults data = if data.length < least then none else some vaults) :
    Exact kind data vaults ↔ least ≤ data.length := by
  unfold Exact
  rw [h]
  constructor
  · rintro ⟨keys, hkeys, -⟩
    by_contra hshort
    rw [if_pos (not_le.mp hshort)] at hkeys
    cases hkeys
  · intro hlong
    exact ⟨vaults, if_neg (not_lt.mpr hlong), fun _ => Iff.rfl⟩

lemma two_reads {least first second : ℕ} {a b : Pubkey} (ha : pubkeyAt data first = some a)
    (hb : pubkeyAt data second = some b) :
    (if data.length < least then none
      else do
        let a ← pubkeyAt data first
        let b ← pubkeyAt data second
        some [a, b]) = if data.length < least then none else some [a, b] := by
  rw [ha, hb]
  rfl

lemma exact_raydiumCpmm (h : venueVaults .raydiumCpmm data = some vaults) :
    Exact .raydiumCpmm data vaults := by
  obtain ⟨state, hstate, rfl⟩ := Option.map_eq_some_iff.mp h
  have hreads := CpmmPoolState.reads hstate
  have hsize := le_length_of_pubkeyAt hreads.mint1
  have hexact : Exact .raydiumCpmm data [state.vault0, state.vault1] ↔ 8 + 32 * 4 ≤ data.length :=
    exact_iff_of_size (two_reads hreads.vault0 hreads.vault1)
  exact hexact.mpr (by omega)

lemma exact_raydiumClmm (h : venueVaults .raydiumClmm data = some vaults) :
    Exact .raydiumClmm data vaults ↔ 800 ≤ data.length := by
  simp only [venueVaults, ClmmPoolState.decode, Option.bind_eq_bind, Option.bind_eq_some_iff,
    Option.some.injEq] at h
  obtain ⟨state, ⟨mint0, -, mint1, -, vault0, hvault0, vault1, hvault1, sqrtPriceX64, -, rfl⟩, -, -,
      rfl⟩ := h
  exact exact_iff_of_size (two_reads hvault0 hvault1)

lemma exact_orcaWhirlpool (h : venueVaults .orcaWhirlpool data = some vaults) :
    Exact .orcaWhirlpool data vaults ↔ 653 ≤ data.length := by
  simp only [venueVaults, WhirlpoolState.decode, Option.bind_eq_bind, Option.map_eq_some_iff,
    Option.bind_eq_some_iff, Option.some.injEq] at h
  obtain ⟨state, ⟨sqrtPrice, -, mintA, -, vaultA, hvaultA, mintB, -, vaultB, hvaultB, rfl⟩, rfl⟩ := h
  exact exact_iff_of_size (two_reads hvaultA hvaultB)

lemma exact_meteoraDamm (h : venueVaults .meteoraDamm data = some vaults) :
    Exact .meteoraDamm data vaults ↔ 1112 ≤ data.length := by
  simp only [venueVaults, DammPoolState.decode, Option.bind_eq_bind, Option.bind_eq_some_iff,
    Option.some.injEq] at h
  obtain ⟨state, ⟨mintA, -, mintB, -, vaultA, hvaultA, vaultB, hvaultB, liquidity, -, sqrtPrice, -,
    rfl⟩, -, -, rfl⟩ := h
  exact exact_iff_of_size (two_reads hvaultA hvaultB)

lemma exact_meteoraDlmm (h : venueVaults .meteoraDlmm data = some vaults) :
    Exact .meteoraDlmm data vaults := by
  simp only [venueVaults, LbPairState.decode, Option.bind_eq_bind, Option.bind_eq_some_iff,
    Option.some.injEq] at h
  obtain ⟨state, ⟨activeId, -, binStep, -, mintX, -, mintY, -, reserveX, hreserveX, reserveY,
    hreserveY, rfl⟩, -, -, rfl⟩ := h
  have hsize := le_length_of_pubkeyAt hreserveY
  have hexact : Exact .meteoraDlmm data [reserveX, reserveY] ↔ 216 ≤ data.length :=
    exact_iff_of_size (two_reads hreserveX hreserveY)
  exact hexact.mpr hsize

lemma exact_fluxbeamAmm (h : venueVaults .fluxbeamAmm data = some vaults) :
    Exact .fluxbeamAmm data vaults := by
  simp only [venueVaults, FluxbeamPoolState.decode, Option.bind_eq_bind, Option.map_eq_some_iff] at h
  obtain ⟨state, hstate, rfl⟩ := h
  simp only [Option.ite_none_left_eq_some, Option.bind_eq_some_iff, Option.some.injEq] at hstate
  obtain ⟨hsize, vaultA, hvaultA, vaultB, hvaultB, mintA, -, mintB, -, rfl⟩ := hstate
  refine ⟨[vaultA, vaultB], ?_, fun _ => Iff.rfl⟩
  simp [ProgramKind.vaults, FluxbeamAmm.extractReserveAccounts, hsize, hvaultA, hvaultB]

lemma exact_pumpFunAmm (h : venueVaults .pumpFunAmm data = some vaults) :
    Exact .pumpFunAmm data vaults ↔ NamesVaults .pumpFunAmm data vaults := by
  obtain ⟨state, hstate, rfl⟩ := Option.map_eq_some_iff.mp h
  have hreads := PumpAmmPoolState.reads hstate
  have hsize := le_length_of_pubkeyAt hreads.quoteTokenAccount
  have hinfo : PumpFunAmm.extractPumpfunMintsAndVaults data =
      some ⟨state.baseMint, state.quoteMint, state.baseTokenAccount, state.quoteTokenAccount⟩ := by
    rw [PumpFunAmm.extractPumpfunMintsAndVaults, if_neg (by omega), hreads.baseMint, hreads.quoteMint,
      hreads.baseTokenAccount, hreads.quoteTokenAccount]
    rfl
  have hnames : NamesVaults .pumpFunAmm data [state.baseTokenAccount, state.quoteTokenAccount] ↔
      isStablecoinMint state.baseMint = false ∧ isStablecoinMint state.quoteMint = false ∧
        isSolMint state.baseMint ≠ isSolMint state.quoteMint := by
    simp [NamesVaults, hreads.baseMint, hreads.quoteMint]
  rw [hnames, Exact, ProgramKind.vaults, PumpFunAmm.extractReserveAccounts, hinfo, Option.bind_eq_bind,
    Option.bind_some, analyzeTokenPair]
  cases isStablecoinMint state.baseMint <;> cases isStablecoinMint state.quoteMint <;>
    cases isSolMint state.baseMint <;> cases isSolMint state.quoteMint <;> simp [or_comm]

lemma exact_raydiumLegacyAmm (h : venueVaults .raydiumLegacyAmm data = some vaults) :
    Exact .raydiumLegacyAmm data vaults ↔ NamesVaults .raydiumLegacyAmm data vaults := by
  obtain ⟨state, hstate, rfl⟩ := Option.map_eq_some_iff.mp h
  have hreads := AmmV4PoolState.reads hstate
  have hsize := le_length_of_pubkeyAt hreads.pcMint
  obtain ⟨across, hacross⟩ : ∃ key, pubkeyAt data 0x160 = some key := exists_pubkeyAt (by omega)
  obtain ⟨beyond, hbeyond⟩ : ∃ key, pubkeyAt data 0x180 = some key := exists_pubkeyAt (by omega)
  have hlong : 0x1c0 ≤ data.length := by omega
  have hkeys : ProgramKind.vaults .raydiumLegacyAmm data =
      some [state.coinVault, across, state.pcVault, beyond] := by
    simp [ProgramKind.vaults, RaydiumLegacyAmm.extractReserveAccounts, hreads.coinVault, hreads.pcVault,
      hacross, hbeyond, hlong]
  have hnames : NamesVaults .raydiumLegacyAmm data [state.coinVault, state.pcVault] ↔
      across ∈ [state.coinVault, state.pcVault] ∧ beyond ∈ [state.coinVault, state.pcVault] := by
    simp [NamesVaults, hacross, hbeyond]
  rw [hnames, Exact, hkeys]
  constructor
  · rintro ⟨keys, hsome, hsame⟩
    rw [← Option.some.inj hsome] at hsame
    exact ⟨(hsame across).mp (by simp), (hsame beyond).mp (by simp)⟩
  · rintro ⟨hacross, hbeyond⟩
    refine ⟨_, rfl, fun key => ⟨fun hkey => ?_, fun hkey => ?_⟩⟩
    · rcases (by simpa using hkey : key = state.coinVault ∨ key = across ∨ key = state.pcVault ∨
          key = beyond) with rfl | rfl | rfl | rfl
      · simp
      · exact hacross
      · simp
      · exact hbeyond
    · rcases (by simpa using hkey : key = state.coinVault ∨ key = state.pcVault) with rfl | rfl <;> simp

/-- What the scan makes of an offset. Source: `meteora_dbc.rs`, `extract_reserve_accounts` -/
def plausibleAt (data : List UInt8) (offset : ℕ) : Option (List Pubkey) := do
  let vault1 ← pubkeyAt data offset
  let vault2 ← pubkeyAt data (offset + 32)
  if vault1 ≠ systemProgramId ∧ vault2 ≠ systemProgramId ∧ MeteoraDbc.textLength vault1 = 44 ∧
      MeteoraDbc.textLength vault2 = 44 then
    some [vault1, vault2]
  else none

lemma plausibleAt_eq_some {keys : List Pubkey} : plausibleAt data offset = some keys ↔
    PlausibleVaults data offset ∧ ∃ vault1 vault2, pubkeyAt data offset = some vault1 ∧
      pubkeyAt data (offset + 32) = some vault2 ∧ keys = [vault1, vault2] := by
  unfold plausibleAt
  unfold PlausibleVaults
  cases pubkeyAt data offset with
  | none => simp
  | some vault1 =>
    cases pubkeyAt data (offset + 32) with
    | none => simp
    | some vault2 =>
      simp only [Option.bind_eq_bind, Option.bind_some, Option.ite_none_right_eq_some,
        Option.some.injEq]
      constructor
      · rintro ⟨hvaults, rfl⟩
        exact ⟨⟨vault1, vault2, rfl, rfl, hvaults⟩, vault1, vault2, rfl, rfl, rfl⟩
      · rintro ⟨⟨first, second, rfl, rfl, hvaults⟩, first, second, rfl, rfl, rfl⟩
        exact ⟨hvaults, rfl⟩

lemma plausibleAt_eq_none : plausibleAt data offset = none ↔ ¬ PlausibleVaults data offset := by
  rw [Option.eq_none_iff_forall_ne_some]
  constructor
  · intro h hvaults
    obtain ⟨vault1, vault2, hvault1, hvault2, -⟩ := id hvaults
    exact h _ (plausibleAt_eq_some.mpr ⟨hvaults, vault1, vault2, hvault1, hvault2, rfl⟩)
  · intro h keys hsome
    exact h (plausibleAt_eq_some.mp hsome).1

lemma exact_meteoraDbc : Exact .meteoraDbc data vaults ↔ NamesVaults .meteoraDbc data vaults := by
  have hscan : ProgramKind.vaults .meteoraDbc data = if data.length < 424 then none
      else [32, 64, 96, 128, 160, 192].findSome? (plausibleAt data) := rfl
  rw [Exact, NamesVaults, hscan]
  by_cases hsize : data.length < 424
  · rw [if_pos hsize]
    simp [hsize]
  · rw [if_neg hsize, and_iff_right (not_lt.mp hsize)]
    constructor
    · rintro ⟨keys, hfound, hsame⟩
      obtain ⟨before, offset, after, hsplit, hoffset, hbefore⟩ := List.findSome?_eq_some_iff.mp hfound
      obtain ⟨hvaults, vault1, vault2, hvault1, hvault2, rfl⟩ := plausibleAt_eq_some.mp hoffset
      refine ⟨before, offset, after, hsplit,
        fun earlier hearlier => plausibleAt_eq_none.mp (hbefore earlier hearlier), hvaults,
          fun key => ?_⟩
      rw [← hsame, hvault1, hvault2]
      simp [eq_comm]
    · rintro ⟨before, offset, after, hsplit, hbefore, hvaults, hsame⟩
      obtain ⟨vault1, vault2, hvault1, hvault2, -⟩ := id hvaults
      have hoffset : plausibleAt data offset = some [vault1, vault2] :=
        plausibleAt_eq_some.mpr ⟨hvaults, vault1, vault2, hvault1, hvault2, rfl⟩
      refine ⟨[vault1, vault2], List.findSome?_eq_some_iff.mpr ⟨before, offset, after, hsplit, hoffset,
        fun earlier hearlier => plausibleAt_eq_none.mpr (hbefore earlier hearlier)⟩, fun key => ?_⟩
      rw [← hsame, hvault1, hvault2]
      simp [eq_comm]

lemma exact_iff {kind : ProgramKind} (h : venueVaults kind data = some vaults) :
    Exact kind data vaults ↔ NamesVaults kind data vaults := by
  cases kind
  case raydiumCpmm => exact iff_of_true (exact_raydiumCpmm h) trivial
  case raydiumLegacyAmm => exact exact_raydiumLegacyAmm h
  case raydiumClmm => exact exact_raydiumClmm h
  case orcaWhirlpool => exact exact_orcaWhirlpool h
  case meteoraDamm => exact exact_meteoraDamm h
  case meteoraDlmm => exact iff_of_true (exact_meteoraDlmm h) trivial
  case meteoraDbc => exact exact_meteoraDbc
  case pumpFunAmm => exact exact_pumpFunAmm h
  case fluxbeamAmm => exact iff_of_true (exact_fluxbeamAmm h) trivial
  case pumpFunLegacy | moonit =>
    obtain ⟨-, -, rfl⟩ := Option.map_eq_some_iff.mp h
    exact iff_of_true ⟨[], rfl, fun _ => Iff.rfl⟩ trivial
  case unknown => cases h

end Exact

/-- **A pool waits for its vaults**, and is held back and blacklisted for nothing else, exactly when
its decoder names the vaults. -/
theorem waits_iff (kind : ProgramKind) (data : List UInt8) (vaults : List Pubkey)
    (h : venueVaults kind data = some vaults) :
    Waits kind data vaults ↔ NamesVaults kind data vaults := by
  rw [← exact_iff h]
  exact ⟨fun hwaits => hwaits.exact, waits_of_exact⟩

/-! ### An AMM v4 pool -/

/-- A pool whose vaults are of two bytes each repeated. -/
def ammV4Data (coin pc : UInt8) : List UInt8 :=
  List.replicate 336 0 ++ List.replicate 32 coin ++ List.replicate 32 pc ++ List.replicate 352 0

lemma venueVaults_ammV4Data :
    venueVaults .raydiumLegacyAmm (ammV4Data 1 2) = some [repeated 1, repeated 2] := by
  decide +kernel

/-- The vaults of a pool, and what it waits for. -/
theorem waits_iff_ammV4 :
    Waits .raydiumLegacyAmm (ammV4Data 1 2) [repeated 1, repeated 2] ↔
      NamesVaults .raydiumLegacyAmm (ammV4Data 1 2) [repeated 1, repeated 2] :=
  waits_iff .raydiumLegacyAmm (ammV4Data 1 2) [repeated 1, repeated 2] venueVaults_ammV4Data

/-- What is read across the two vaults is waited for as well. -/
theorem not_waits : ¬ ∀ kind data vaults, venueVaults kind data = some vaults →
    Waits kind data vaults := by
  intro h
  have hexact := (h _ _ _ venueVaults_ammV4Data).exact
  rw [exact_raydiumLegacyAmm venueVaults_ammV4Data] at hexact
  have hacross : pubkeyAt (ammV4Data 1 2) 0x160 =
      some ⟨List.replicate 16 1 ++ List.replicate 16 2, rfl⟩ := by
    decide +kernel
  have hmem := hexact 0x160 (mem_cons_self) _ hacross
  exact absurd hmem (by decide +kernel)

end Dripline.Pools
