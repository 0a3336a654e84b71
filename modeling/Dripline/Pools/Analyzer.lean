import Dripline.Pools.Program

/-!
# Pool analysis and price calculation

`chains/solana/pools/{analyzer, analyzer_extractors, calculator, fetcher_types}.rs`.

* `RpcAnswer` — what the RPC says of an account.
* `analyzePool` — the descriptor of a pool, or nothing: the program, then the reserve accounts.
* `PoolAccountBundle` — the accounts of a pool that were fetched.
* `calculatePoolPrice` — the price of a pool from its bundle, or an error.
-/

namespace Dripline.Pools

/-! ## The RPC -/

/-- An account as the RPC returns it. -/
structure Account where
  owner : Pubkey
  data : List UInt8

/-- What `get_account` returns: a failure, that there is no such account, or the account. -/
inductive RpcAnswer
  | failed
  | missing
  | found (account : Account)

/-- The account, if there is one. -/
def RpcAnswer.account : RpcAnswer → Option Account
  | .found account => some account
  | .failed | .missing => none

/-! ## Analysis -/

/-- Source: `analyzer.rs`, `AnalyzerMessage::AnalyzePool`, without what is only logged -/
structure AnalyzePool where
  poolId : Pubkey
  programId : Pubkey
  baseMint : Pubkey
  quoteMint : Pubkey

/-- The reserve accounts are the texts of addresses, which `reserve_pubkeys` reads back.
Source: `pools/types.rs`, `PoolDescriptor`, without the liquidity, the volume and the time -/
structure PoolDescriptor where
  poolId : Pubkey
  programKind : String
  baseMint : Pubkey
  quoteMint : Pubkey
  reserveAccounts : List Pubkey
  deriving DecidableEq

namespace AnalyzePool

variable (message : AnalyzePool) (owner pool : RpcAnswer)

/-- The program of discovery, or the owner of the account. Source: `analyzer.rs`,
`analyze_pool_static` -/
def actualProgramId : Option Pubkey :=
  if message.programId = systemProgramId then owner.account.map Account.owner
  else some message.programId

/-- The pool, the vaults, and the mints. -/
def reserves (vaults : List Pubkey) : List Pubkey :=
  message.poolId :: (vaults ++ [message.baseMint, message.quoteMint])

variable (kind : ProgramKind)

/-- The reserve accounts of a pool that is not analyzed without its account.
Source: `analyzer_extractors.rs`, `extract_raydium_cpmm_accounts` and the like -/
def requiredAccounts : Option (List Pubkey) :=
  (pool.account.bind fun account => kind.vaults account.data).map message.reserves

/-- The vaults of a pool, none where its account was not returned or names none.
Source: `analyzer_extractors.rs`, `extract_raydium_clmm_accounts` and the like -/
def vaultsIfFound : List Pubkey :=
  (pool.account.bind fun account => kind.vaults account.data).getD []

/-- Source: `analyzer.rs` -/
def extractReserveAccounts : Option (List Pubkey) :=
  match kind with
  | .raydiumCpmm | .meteoraDlmm | .fluxbeamAmm => requiredAccounts message pool kind
  | .raydiumLegacyAmm | .raydiumClmm | .orcaWhirlpool | .meteoraDamm | .meteoraDbc =>
    some (message.reserves (vaultsIfFound pool kind))
  | .pumpFunAmm => some (message.poolId :: vaultsIfFound pool kind)
  | .pumpFunLegacy | .moonit => some [message.poolId]
  | .unknown => none

/-- The first answer is of the owner, the second of the reserve accounts.
Source: `analyzer.rs`, `analyze_pool_static` -/
def analyzePool : Option PoolDescriptor := do
  let program ← actualProgramId message owner
  let kind := ProgramKind.fromProgramId program
  if kind = .unknown then none
  else
    let reserveAccounts ← extractReserveAccounts message pool kind
    some
      { poolId := message.poolId
        programKind := kind.protocolId
        baseMint := message.baseMint
        quoteMint := message.quoteMint
        reserveAccounts := reserveAccounts }

end AnalyzePool

/-! ## Calculation -/

/-- Source: `fetcher_types.rs`, `PoolAccountBundle`, with its age in seconds -/
structure PoolAccountBundle where
  accounts : Accounts
  slot : ℕ
  ageSeconds : ℕ

/-- SOL and the system program are no accounts of their own. Source: `fetcher_types.rs`,
`is_complete` -/
def PoolAccountBundle.isComplete (bundle : PoolAccountBundle) (required : List Pubkey) : Bool :=
  (required.filter fun key => key ≠ solMint ∧ key ≠ systemProgramId).all fun key =>
    (bundle.accounts.get key).isSome

/-- Source: `calculator.rs`, `calculate_pool_price_static`, the errors -/
inductive CalculationError
  | incompleteAccountBundle
  | decoderFailed

/-- SOL has nine decimals; those of the other mints are cached, or not. Source:
`tokens/decimals.rs`, `get_cached` -/
def getCachedDecimals (cached : Pubkey → Option ℕ) (mint : Pubkey) : Option ℕ :=
  if isSolMint mint then some solDecimals else cached mint

variable {K : Type} [Field K] [LinearOrder K]

/-- Source: `calculator.rs` -/
def calculateConfidence (price : PriceResult K) (bundle : PoolAccountBundle) : K :=
  let aged : K := if 10 < bundle.ageSeconds then 9 / 10 else 1
  let older := if 30 < bundle.ageSeconds then aged * (8 / 10) else aged
  let confidence :=
    if price.solReserves < 1 then older * (1 / 2)
    else if price.solReserves < 10 then older * (8 / 10)
    else older
  max 0 (min confidence 1)

namespace PoolDescriptor

variable (descriptor : PoolDescriptor)

/-- The token of a pool with SOL. Source: `calculator.rs`, `calculate_pool_price_static`,
`target_mint` -/
def targetMint : Pubkey :=
  if descriptor.baseMint = solMint then descriptor.quoteMint else descriptor.baseMint

/-- Source: `calculator.rs`, `calculate_pool_price_static` -/
def calculatePoolPrice (powf : K → K → K) (cached : Pubkey → Option ℕ) (bundle : PoolAccountBundle) :
    Except CalculationError (PriceResult K) :=
  if bundle.isComplete descriptor.reserveAccounts = false then .error .incompleteAccountBundle
  else
    match (ProgramKind.fromProtocolId descriptor.programKind).decodePool powf (getCachedDecimals cached)
        bundle.accounts descriptor.targetMint solMint with
    | none => .error .decoderFailed
    | some price =>
      let priced : PriceResult K :=
        { price with
          mint := descriptor.targetMint
          poolAddress := some descriptor.poolId
          slot := bundle.slot }
      .ok { priced with confidence := calculateConfidence priced bundle }

end PoolDescriptor

end Dripline.Pools
