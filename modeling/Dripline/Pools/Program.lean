import Dripline.Pools.Amms
import Dripline.Pools.Curves
import Dripline.Pools.Damm

/-!
# Programs of pools

`chains/solana/pools/types.rs`, `decoders/mod.rs`, and the `extract_reserve_accounts` of the
decoders.
-/

namespace Dripline.Pools

open Option

/-- Source: `chains/solana/pools/types.rs` -/
inductive ProgramKind
  | raydiumCpmm
  | raydiumLegacyAmm
  | raydiumClmm
  | orcaWhirlpool
  | meteoraDamm
  | meteoraDlmm
  | meteoraDbc
  | pumpFunAmm
  | pumpFunLegacy
  | moonit
  | fluxbeamAmm
  | unknown
  deriving DecidableEq

namespace ProgramKind

/-- Source: `types.rs` -/
def programId : ProgramKind → Option Pubkey
  | .raydiumCpmm => some RaydiumCpmm.programId
  | .raydiumLegacyAmm => some RaydiumLegacyAmm.programId
  | .raydiumClmm => some RaydiumClmm.programId
  | .orcaWhirlpool => some OrcaWhirlpool.programId
  | .meteoraDamm => some MeteoraDamm.programId
  | .meteoraDlmm => some MeteoraDlmm.programId
  | .meteoraDbc => some MeteoraDbc.programId
  | .pumpFunAmm => some PumpFunAmm.programId
  | .pumpFunLegacy => some PumpFunLegacy.programId
  | .moonit => some Moonit.programId
  | .fluxbeamAmm => some FluxbeamAmm.programId
  | .unknown => none

/-- The kinds with a program. -/
def known : List ProgramKind :=
  [.raydiumCpmm, .raydiumLegacyAmm, .raydiumClmm, .orcaWhirlpool, .meteoraDamm, .meteoraDlmm,
    .meteoraDbc, .pumpFunAmm, .pumpFunLegacy, .moonit, .fluxbeamAmm]

/-- Source: `types.rs` -/
def fromProgramId (programId : Pubkey) : ProgramKind :=
  (known.find? fun kind => kind.programId = some programId).getD .unknown

/-- Source: `types.rs`, `protocol_slug`, `protocol_id` -/
def protocolId : ProgramKind → String
  | .raydiumCpmm => "raydium_cpmm"
  | .raydiumLegacyAmm => "raydium_legacy_amm"
  | .raydiumClmm => "raydium_clmm"
  | .orcaWhirlpool => "orca_whirlpool"
  | .meteoraDamm => "meteora_damm_v2"
  | .meteoraDlmm => "meteora_dlmm"
  | .meteoraDbc => "meteora_dbc"
  | .pumpFunAmm => "pumpfun_amm"
  | .pumpFunLegacy => "pumpfun_legacy"
  | .moonit => "moonit_amm"
  | .fluxbeamAmm => "fluxbeam_amm"
  | .unknown => "unknown"

/-- Source: `types.rs` -/
def displayName : ProgramKind → String
  | .raydiumCpmm => "RAYDIUM CPMM"
  | .raydiumLegacyAmm => "RAYDIUM LEGACY AMM"
  | .raydiumClmm => "RAYDIUM CLMM"
  | .orcaWhirlpool => "ORCA WHIRLPOOL"
  | .meteoraDamm => "METEORA DAMM v2"
  | .meteoraDlmm => "METEORA DLMM"
  | .meteoraDbc => "METEORA DBC"
  | .pumpFunAmm => "PUMP.FUN AMM"
  | .pumpFunLegacy => "PUMP.FUN"
  | .moonit => "MOONIT AMM"
  | .fluxbeamAmm => "FLUXBEAM AMM"
  | .unknown => "UNKNOWN"

/-- The stable texts first, then the names that were stored before them. Source: `types.rs`,
`from_protocol_id` -/
def fromProtocolId (id : String) : ProgramKind :=
  ((known.find? fun kind => kind.protocolId = id).or
    (known.find? fun kind => kind.displayName = id)).getD .unknown

/-! ## Vaults -/

variable (data : List UInt8)

/-- Source: `orca_whirlpool.rs`, `extract_reserve_accounts` -/
def whirlpoolVaults : Option (List Pubkey) :=
  if data.length < 653 then none
  else do
    let tokenVaultA ← pubkeyAt data 133
    let tokenVaultB ← pubkeyAt data 213
    some [tokenVaultA, tokenVaultB]

/-- Source: `raydium_clmm.rs`, `extract_reserve_accounts` -/
def clmmVaults : Option (List Pubkey) :=
  if data.length < 800 then none
  else do
    let tokenVault0 ← pubkeyAt data 137
    let tokenVault1 ← pubkeyAt data 169
    some [tokenVault0, tokenVault1]

/-- Source: `meteora_damm.rs`, `extract_reserve_accounts` -/
def dammVaults : Option (List Pubkey) :=
  if data.length < 1112 then none
  else do
    let tokenAVault ← pubkeyAt data 232
    let tokenBVault ← pubkeyAt data 264
    some [tokenAVault, tokenBVault]

/-- Source: `meteora_dlmm.rs`, `extract_reserve_accounts` -/
def dlmmVaults : Option (List Pubkey) :=
  if data.length < 216 then none
  else do
    let reserveX ← pubkeyAt data 152
    let reserveY ← pubkeyAt data 184
    some [reserveX, reserveY]

/-- The vaults that the data of a pool names; curves have none. Source: the decoders'
`extract_reserve_accounts` -/
def vaults (kind : ProgramKind) (data : List UInt8) : Option (List Pubkey) :=
  match kind with
  | .raydiumCpmm => RaydiumCpmm.extractReserveAccounts data
  | .raydiumLegacyAmm => RaydiumLegacyAmm.extractReserveAccounts data
  | .raydiumClmm => clmmVaults data
  | .orcaWhirlpool => whirlpoolVaults data
  | .meteoraDamm => dammVaults data
  | .meteoraDlmm => dlmmVaults data
  | .meteoraDbc => MeteoraDbc.extractReserveAccounts data
  | .pumpFunAmm => PumpFunAmm.extractReserveAccounts data
  | .fluxbeamAmm => FluxbeamAmm.extractReserveAccounts data
  | .pumpFunLegacy | .moonit => some []
  | .unknown => none

/-! ## Decoders -/

variable {K : Type} [Field K] [LinearOrder K]
variable (powf : K → K → K) (cache : Pubkey → Option ℕ) (accounts : Accounts)
  (baseMint quoteMint : Pubkey)

/-- Source: `decoders/mod.rs` -/
def decodePool (kind : ProgramKind) : Option (PriceResult K) :=
  match kind with
  | .raydiumCpmm => RaydiumCpmm.decodeAndCalculate cache accounts baseMint quoteMint
  | .raydiumClmm => RaydiumClmm.decodeAndCalculate cache accounts baseMint quoteMint
  | .pumpFunAmm => PumpFunAmm.decodeAndCalculate cache accounts
  | .pumpFunLegacy => PumpFunLegacy.decodeAndCalculate cache accounts baseMint quoteMint
  | .raydiumLegacyAmm => RaydiumLegacyAmm.decodeAndCalculate cache accounts baseMint quoteMint
  | .meteoraDlmm => MeteoraDlmm.decodeAndCalculate cache accounts baseMint quoteMint
  | .meteoraDamm => MeteoraDamm.decodeAndCalculate powf cache accounts baseMint quoteMint
  | .meteoraDbc => MeteoraDbc.decodeAndCalculate cache accounts
  | .orcaWhirlpool => OrcaWhirlpool.decodeAndCalculate cache accounts
  | .moonit => Moonit.decodeAndCalculate cache accounts baseMint quoteMint
  | .fluxbeamAmm => FluxbeamAmm.decodeAndCalculate cache accounts baseMint quoteMint
  | .unknown => none

/-- What is read of the data of the account that a program owns. -/
def ofPool {β : Type} (program : Pubkey) (read : List UInt8 → Option β) : Option β :=
  (accounts.poolAccount program).bind fun pool => read pool.data

/-- The mints whose decimals a decoder looks up. -/
def mints (kind : ProgramKind) : List Pubkey :=
  match kind with
  | .raydiumCpmm =>
    match ofPool accounts RaydiumCpmm.programId RaydiumCpmm.poolMints with
    | some (token0Mint, token1Mint) => [token0Mint, token1Mint]
    | none => []
  | .raydiumClmm =>
    (ofPool accounts RaydiumClmm.programId fun data =>
      (RaydiumClmm.parseClmmPool data).bind RaydiumClmm.sides).toList.map Sides.tokenMint
  | .orcaWhirlpool =>
    (ofPool accounts OrcaWhirlpool.programId fun data =>
      (OrcaWhirlpool.parseWhirlpoolData data).bind OrcaWhirlpool.sides).toList.map Sides.tokenMint
  | .meteoraDamm =>
    (ofPool accounts MeteoraDamm.programId fun data =>
      (MeteoraDamm.parseDammPool data).bind MeteoraDamm.sides).toList.map Sides.tokenMint
  | .meteoraDlmm =>
    match ofPool accounts MeteoraDlmm.programId MeteoraDlmm.parseDlmmPool with
    | some info => [info.tokenXMint, info.tokenYMint]
    | none => []
  | .fluxbeamAmm =>
    (ofPool accounts FluxbeamAmm.programId fun data =>
      (FluxbeamAmm.parseFluxbeamPool data).bind FluxbeamAmm.sides).toList.map Sides.tokenMint
  | .meteoraDbc =>
    ((accounts.poolAccount MeteoraDbc.programId).bind
      (MeteoraDbc.sides accounts)).toList.map DbcSides.tokenMint
  | .raydiumLegacyAmm =>
    (((RaydiumLegacyAmm.largest accounts).bind (RaydiumLegacyAmm.adjustedPool accounts)).bind
      RaydiumLegacyAmm.tokenSide).toList.map Prod.fst
  | .pumpFunAmm => accounts.filterMap fun entry => (PumpFunAmm.poolInfo entry.2).map Sides.tokenMint
  | .pumpFunLegacy => (PumpFunLegacy.tokenMint baseMint quoteMint).toList
  | .moonit => [baseMint]
  | .unknown => []

/-! ## What a decoder looks up -/

section dependsOn

variable {accounts baseMint quoteMint}

lemma dependsOn_raydiumCpmm :
    DependsOn (fun cache => RaydiumCpmm.decodeAndCalculate (K := K) cache accounts baseMint quoteMint)
      {mint | mint ∈ mints accounts baseMint quoteMint .raydiumCpmm} := by
  intro cache cache' h
  refine bind_congr fun pool hpool => ?_
  refine congrArg (fun info => Option.bind info _) (bind_congr fun found hfound => ?_)
  have hmints : mints accounts baseMint quoteMint .raydiumCpmm = [found.1, found.2] := by
    simp [mints, ofPool, hpool, hfound]
  have h0 : cache found.1 = cache' found.1 := h _ (by simp [hmints])
  have h1 : cache found.2 = cache' found.2 := h _ (by simp [hmints])
  rw [h0, h1]

lemma dependsOn_meteoraDlmm :
    DependsOn (fun cache => MeteoraDlmm.decodeAndCalculate (K := K) cache accounts baseMint quoteMint)
      {mint | mint ∈ mints accounts baseMint quoteMint .meteoraDlmm} := by
  intro cache cache' h
  refine bind_congr fun pool hpool => ?_
  refine bind_congr fun info hinfo => ?_
  refine bind_congr fun sides hsides => ?_
  have hmints : mints accounts baseMint quoteMint .meteoraDlmm =
      [info.tokenXMint, info.tokenYMint] := by
    simp [mints, ofPool, hpool, hinfo]
  have hx : cache info.tokenXMint = cache' info.tokenXMint := h _ (by simp [hmints])
  have hy : cache info.tokenYMint = cache' info.tokenYMint := h _ (by simp [hmints])
  have htoken : cache sides.tokenMint = cache' sides.tokenMint := by
    rw [MeteoraDlmm.sides] at hsides
    split at hsides
    · obtain rfl := Option.some.inj hsides
      exact hx
    · split at hsides
      · obtain rfl := Option.some.inj hsides
        exact hy
      · simp at hsides
  have hprice : MeteoraDlmm.calculateDlmmPrice (K := K) cache info sides.tokenMint =
      MeteoraDlmm.calculateDlmmPrice cache' info sides.tokenMint := by
    have hdecimals : MeteoraDlmm.decimals cache info.tokenXMint =
        MeteoraDlmm.decimals cache' info.tokenXMint ∧
        MeteoraDlmm.decimals cache info.tokenYMint = MeteoraDlmm.decimals cache' info.tokenYMint := by
      simp only [MeteoraDlmm.decimals, hx, hy, and_self]
    rw [MeteoraDlmm.calculateDlmmPrice, hdecimals.1, hdecimals.2, ← MeteoraDlmm.calculateDlmmPrice]
  rw [htoken, hprice]

lemma dependsOn_meteoraDbc :
    DependsOn (fun cache => MeteoraDbc.decodeAndCalculate (K := K) cache accounts)
      {mint | mint ∈ mints accounts baseMint quoteMint .meteoraDbc} := by
  intro cache cache' h
  refine bind_congr fun pool hpool => ?_
  refine bind_congr fun sides hsides => ?_
  have hmint : cache sides.tokenMint = cache' sides.tokenMint := by
    refine h _ ?_
    simp [mints, hpool, hsides]
  rw [hmint]

lemma dependsOn_raydiumLegacyAmm :
    DependsOn (fun cache => RaydiumLegacyAmm.decodeAndCalculate
      (K := K) cache accounts baseMint quoteMint)
      {mint | mint ∈ mints accounts baseMint quoteMint .raydiumLegacyAmm} := by
  intro cache cache' h
  refine bind_congr fun pool hpool => ?_
  refine bind_congr fun info hinfo => ?_
  refine bind_congr fun reserves _ => ?_
  refine bind_congr fun side hside => ?_
  have hmint : cache side.1 = cache' side.1 := by
    refine h _ ?_
    simp only [mints, hpool, hinfo, hside, bind_some, toList_some, List.map_cons,
      List.map_nil]
    exact List.mem_singleton.mpr rfl
  rw [hmint]

lemma findSome_congr {α β : Type} {read read' : α → Option β} {list : List α}
    (h : ∀ a ∈ list, read a = read' a) : list.findSome? read = list.findSome? read' := by
  induction list with
  | nil => rfl
  | cons a list ih =>
    rw [List.findSome?_cons, List.findSome?_cons, h a List.mem_cons_self,
      ih fun a' ha' => h a' (List.mem_cons_of_mem a ha')]

lemma dependsOn_pumpFunAmm :
    DependsOn (fun cache => PumpFunAmm.decodeAndCalculate (K := K) cache accounts)
      {mint | mint ∈ mints accounts baseMint quoteMint .pumpFunAmm} := by
  intro cache cache' h
  refine findSome_congr fun entry hentry => bind_congr fun sides hsides => ?_
  have hmint : cache sides.tokenMint = cache' sides.tokenMint :=
    h _ (List.mem_filterMap.mpr ⟨entry, hentry, by rw [hsides]; rfl⟩)
  simp only [PumpFunAmm.calculatePumpFunAmmPrice, hmint]

lemma dependsOn_pumpFunLegacy :
    DependsOn (fun cache => PumpFunLegacy.decodeAndCalculate (K := K) cache accounts baseMint quoteMint)
      {mint | mint ∈ mints accounts baseMint quoteMint .pumpFunLegacy} := by
  intro cache cache' h
  refine bind_congr fun mint hmint => findSome_congr fun entry _ => ?_
  have hcache : cache mint = cache' mint := h _ (by simp [mints, hmint])
  simp only [PumpFunLegacy.calculateBondingCurvePrice, hcache]

lemma dependsOn_moonit :
    DependsOn (fun cache => Moonit.decodeAndCalculate (K := K) cache accounts baseMint quoteMint)
      {mint | mint ∈ mints accounts baseMint quoteMint .moonit} := by
  intro cache cache' h
  have hcache : cache baseMint = cache' baseMint := h _ (by simp [mints])
  simp only [Moonit.decodeAndCalculate, Moonit.calculateMoonitPrice, hcache]

lemma dependsOn_decodePool (kind : ProgramKind) :
    DependsOn (fun cache => decodePool powf cache accounts baseMint quoteMint kind)
      {mint | mint ∈ mints accounts baseMint quoteMint kind} := by
  cases kind with
  | raydiumCpmm => exact dependsOn_raydiumCpmm
  | raydiumLegacyAmm => exact dependsOn_raydiumLegacyAmm
  | meteoraDlmm => exact dependsOn_meteoraDlmm
  | meteoraDbc => exact dependsOn_meteoraDbc
  | pumpFunAmm => exact dependsOn_pumpFunAmm
  | pumpFunLegacy => exact dependsOn_pumpFunLegacy
  | moonit => exact dependsOn_moonit
  | unknown => exact fun _ _ _ => rfl
  | raydiumClmm | orcaWhirlpool | meteoraDamm | fluxbeamAmm =>
    intro cache cache' h
    refine bind_congr fun pool hpool => ?_
    refine bind_congr fun info hinfo => ?_
    refine bind_congr fun sides hsides => ?_
    have hmint : cache sides.tokenMint = cache' sides.tokenMint := by
      refine h _ ?_
      simp [mints, ofPool, hpool, hinfo, hsides]
    rw [hmint]

end dependsOn

end ProgramKind

end Dripline.Pools
