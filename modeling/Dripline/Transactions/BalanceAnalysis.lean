import Dripline.Pools.Layout
import Dripline.Wallets.Classify

/-!
# Balances, fees and instructions of a transaction

`chains/solana/transactions/analyzer/{balance, ata, pnl}.rs` and `processor/{helpers_transfers,
helpers_wsol}.rs`. SOL is in exact fractions.

* `ParsedDetails` — keys, balances and parsed instructions.
* the scans of the instructions, for what the wallet transferred, wrapped and was credited.
* `BalanceAnalysis` — the changes of all accounts, as maps may list them.
* `FeeBreakdown`, `calculateMainSwapPnl` — fees, tips and rent, and the largest changes.

A source without a file is in `analyzer/pnl.rs` or the file of its section.
-/

namespace Dripline.Transactions

open Dripline.Chain Dripline.Wallets
open Dripline.Pools (fromLeBytes)

/-! ## A parsed transaction -/

/-- The fields of an instruction's `info`, each as its accessor finds it; `sender` and `recipient`
are `from` and `to`, and `amountText` is an `amount` in text, parsed. -/
structure InstructionInfo where
  source : Option String := none
  sender : Option String := none
  destination : Option String := none
  recipient : Option String := none
  account : Option String := none
  mint : Option String := none
  wallet : Option String := none
  lamports : Option ℕ := none
  amount : Option ℕ := none
  amountText : Option ℕ := none
  uiAmount : Option ℚ := none
  unitLimit : Option ℕ := none
  microLamports : Option ℕ := none

/-- The `parsed` of an instruction. -/
structure ParsedInstruction where
  kind : Option String
  info : Option InstructionInfo

/-- An instruction, with its data decoded. -/
structure Instruction where
  programId : Option String := none
  parsed : Option ParsedInstruction := none
  data : List UInt8 := []

/-- `accountKeys` is what `account_keys_from_message` reads, and `innerInstructions` are those of
all groups. Source: `chains/solana/rpc/types.rs`, `TransactionDetails` -/
structure ParsedDetails where
  accountKeys : List String
  signatures : ℕ
  instructions : List Instruction
  innerInstructions : List Instruction
  metadata : UiMetadata
  computeUnitsConsumed : Option ℕ

/-- The largest `u64`. -/
def maxU64 : ℕ := 2 ^ 64 - 1

/-- Source: the sums with `saturating_add` -/
def saturatingSum (amounts : List ℕ) : ℕ := min amounts.sum maxU64

/-- A number, unless it is zero. -/
def nonzero (n : ℕ) : Option ℕ := if 0 < n then some n else none

/-- Lamports of SOL, rounded. Source: the `round` and `clamp` of amounts -/
def toRaw (sol : ℚ) : ℕ := min ⌊sol * 10 ^ 9 + 1 / 2⌋.toNat maxU64

namespace InstructionInfo

variable (info : InstructionInfo)

/-- Source: `processor/helpers_transfers.rs`, `source` -/
def sourceKey : String := (info.source <|> info.sender).getD ""

/-- Source: `processor/helpers_transfers.rs`, `dest` -/
def destinationKey : String := (info.destination <|> info.recipient).getD ""

/-- Source: `processor/helpers_transfers.rs`, `lamports`, or `amount` -/
def lamportsOrAmount : Option ℕ := info.lamports <|> info.amount

end InstructionInfo

/-- The `info` of an instruction of one of some kinds. -/
def Instruction.infoOf (instruction : Instruction) (kinds : List String) : Option InstructionInfo :=
  instruction.parsed.bind fun parsed =>
    if parsed.kind.any kinds.contains then parsed.info else none

/-- Source: `transactions/program_ids.rs`, `KNOWN_MEV_TIP_ADDRESSES`, `is_mev_tip_address` -/
def isMevTipAddress (address : String) : Bool :=
  ["BB5dnY55FXS1e1NXqZDwCzgdYJdMCj3B92PU6Q5Fb6DT", "96gYZGLnJYVFmbjzopPSU6QiEV5fGqZNyN9nmNhvrZU5",
    "HFqU5x63VTqvQss8hp11i4wVV8bD44PvwucfZ2bU7gRe", "Cw8CFyM9FkoMi7K7Crf6HNQqf4uEMzpKw6QNghXLvLkY",
    "ADaUMid9yfUytqMBgopwjb2DTLSokTSzL1zt6iGPaS49", "DfXygSm4jCyNCybVYYK6DwvWqjKee8pbDmJGcLWNDXjh",
    "ADuUkR4vqLUMWXxW9gh6D6L8pMSawimctcNZ5pGwDcEt",
      "DttWaMuVvTiduZRnguLF7jNxTgiMBZ1hyAumKUiL2KRL"].contains
      address

namespace ParsedDetails

variable (details : ParsedDetails) (wallet : String)

/-! ## Scans of the instructions, `processor/helpers_wsol.rs` -/

/-- The outer instructions, and the inner ones. -/
def allInstructions : List Instruction := details.instructions ++ details.innerInstructions

/-- What instructions of some kinds say. -/
def infos (kinds : List String) : List InstructionInfo :=
  details.allInstructions.filterMap (·.infoOf kinds)

/-- What was sent from the wallet. -/
def sentInfos (kinds : List String) : List InstructionInfo :=
  (details.infos kinds).filter (·.sourceKey == wallet)

/-- Source: `processor/helpers_transfers.rs` -/
def findLargestSystemTransferFromWallet : Option ℕ :=
  ((details.sentInfos wallet ["transfer", "createAccount"]).filterMap (·.lamportsOrAmount)).max?

/-- Source: `processor/helpers_transfers.rs` -/
def sumSystemTransfersToAccountFromWallet (destAccount : String) : Option ℕ :=
  nonzero (saturatingSum
    (((details.sentInfos wallet ["transfer"]).filter (·.destinationKey == destAccount)).filterMap
      (·.lamportsOrAmount)))

/-- Source: `processor/helpers_transfers.rs`,
`find_largest_system_transfer_from_wallet_excluding_tips` -/
def findLargestSystemTransferFromWalletExcludingTips : Option ℕ :=
  nonzero (((((details.sentInfos wallet ["transfer"]).filter fun info =>
    !isMevTipAddress info.destinationKey).filterMap (·.lamportsOrAmount)).foldl max 0))

/-- In lamports. Source: `processor/helpers_transfers.rs`, `find_mev_tips_from_wallet` -/
def mevTipsFromWallet : ℕ :=
  saturatingSum (((details.sentInfos wallet ["transfer"]).filter fun info =>
    isMevTipAddress info.destinationKey).filterMap (·.lamports))

/-- Tips, whoever paid them, in SOL. Source: `analyzer/balance.rs`, `analyzer/pnl.rs`,
`detect_mev_tips_from_instructions`; `processor/helpers_transfers.rs`,
`detect_mev_tips_from_instructions_light` -/
def detectMevTipsFromInstructions : ℚ :=
  lamportsToSol (saturatingSum (((details.infos ["transfer"]).filter fun info =>
    isMevTipAddress info.destinationKey).filterMap (·.lamportsOrAmount)))

/-- Both lists of token balances. -/
def tokenBalances : List UiTokenBalance :=
  details.metadata.preTokenBalances.getD [] ++ details.metadata.postTokenBalances.getD []

/-- The accounts of wrapped SOL that the wallet owns, and those created for it. Source:
`processor/helpers_wsol.rs`, `get_wallet_wsol_ata_addresses` -/
def getWalletWsolAtaAddresses : List String :=
  let owned := (details.tokenBalances.filter fun balance =>
    balance.mint == solMint && balance.owner == some wallet).map (·.accountIndex)
  let created := ((details.infos ["createIdempotent"]).filter fun info =>
    info.mint == some solMint && info.wallet == some wallet).filterMap fun info =>
      info.account.bind fun account => details.accountKeys.findIdx? (· == account)
  (owned ++ created).filterMap (details.accountKeys[·]?)

def findWrapDepositViaSysTransfersToWsolAtas : Option ℕ :=
  nonzero (saturatingSum (((details.sentInfos wallet ["transfer"]).filter fun info =>
    (details.getWalletWsolAtaAddresses wallet).contains info.destinationKey).filterMap (·.lamports)))

/-- What an account gained in lamports, if it did. -/
def lamportsGained (index : ℕ) : Option ℕ :=
  if index < details.metadata.preBalances.length ∧ index < details.metadata.postBalances.length then
    some (details.metadata.postBalances.getD index 0 - details.metadata.preBalances.getD index 0)
  else none

/-- The last account that was synced. Source: `processor/helpers_wsol.rs`,
`find_wrap_sync_account_and_delta` -/
def findWrapSyncAccountAndDelta : Option (String × ℕ) :=
  ((details.infos ["syncNative"]).filterMap fun info => do
    let account ← info.account
    let index ← details.accountKeys.findIdx? (· == account)
    let delta ← details.lamportsGained index
    some (account, delta)).getLast?

def findWrapDepositViaTransferToSyncAccount : Option ℕ :=
  details.findWrapSyncAccountAndDelta.bind fun synced =>
    details.sumSystemTransfersToAccountFromWallet wallet synced.1

/-- The most that an account of wrapped SOL gained, whoever owns it. Source:
`processor/helpers_wsol.rs`, `find_wsol_wrap_deposit_lamports` -/
def findWsolWrapDepositLamports : Option ℕ :=
  let indices := (details.tokenBalances.filter (·.mint == solMint)).map (·.accountIndex)
  nonzero ((indices.filterMap details.lamportsGained).foldl max 0)

/-- What a transfer says it moved, in SOL. Source: `processor/helpers_wsol.rs`,
`sum_inner_wsol_transfers_ui_to_wallet`, `ui_amount` -/
def creditedUi (info : InstructionInfo) : ℚ :=
  let uiAmount := info.uiAmount.getD 0
  if uiAmount = 0 then lamportsToSol ((info.amountText <|> info.amount).getD 0) else uiAmount

def sumInnerWsolTransfersUiToWallet : ℚ :=
  (((details.innerInstructions.filterMap (·.infoOf ["transfer", "transferChecked"])).filter fun info =>
    info.mint == some solMint && info.destinationKey != "" &&
      (details.getWalletWsolAtaAddresses wallet).contains info.destinationKey).map fun info =>
        max (creditedUi info) 0).sum

end ParsedDetails

/-! ## Balance changes -/

/-- The value under a key is the last that was inserted. Source: `HashMap::insert` -/
def insertKey (map : List (String × ℚ)) (entry : String × ℚ) : List (String × ℚ) :=
  entry :: map.filter (·.1 != entry.1)

/-- Source: `transactions/types.rs`, `TokenBalanceChange`, the mint and the change -/
structure TokenBalanceChange where
  mint : String
  change : ℚ

/-- Source: `f64::EPSILON` -/
def f64Epsilon : ℚ := 1 / 2 ^ 52

namespace ParsedDetails

variable (details : ParsedDetails)

/-- Source: `analyzer/balance.rs` -/
def extractSolBalanceChanges : List (String × ℚ) :=
  let entries :=
      details.accountKeys.zip (details.metadata.preBalances.zip details.metadata.postBalances)
  (entries.filter fun entry => entry.2.1 != entry.2.2).foldl
    (fun map entry => insertKey map (entry.1, ((entry.2.2 : ℚ) - entry.2.1) / 10 ^ 9)) []

/-- The last balance that is listed of an account and its mint. Source: `HashMap::insert` -/
def lastBalance (balances : Option (List UiTokenBalance)) (account : ℕ × String) :
    Option UiTokenBalance :=
  ((balances.getD []).filter fun balance =>
    balance.accountIndex == account.1 && balance.mint == account.2).getLast?

/-- The owner, as it is after or was before, or the token account itself. Source:
`analyzer/balance.rs`, `extract_token_balance_changes`, `account_key_owned` -/
def attributedOwner (account : ℕ × String) : Option String :=
  (lastBalance details.metadata.postTokenBalances account).bind (·.owner) <|>
    (lastBalance details.metadata.preTokenBalances account).bind (·.owner) <|>
      details.accountKeys[account.1]?

/-- What an account shows more than before. Source: `analyzer/balance.rs`,
`extract_token_balance_changes`, `change` -/
def tokenChange (account : ℕ × String) : ℚ :=
  ((lastBalance details.metadata.postTokenBalances account).bind (·.uiAmount)).getD 0 -
    ((lastBalance details.metadata.preTokenBalances account).bind (·.uiAmount)).getD 0

/-- Source: `analyzer/balance.rs` -/
def extractTokenBalanceChanges : List (String × TokenBalanceChange) :=
  ((details.tokenBalances.map fun balance => (balance.accountIndex, balance.mint)).dedup.filter
    fun account => f64Epsilon < |details.tokenChange account|).filterMap fun account =>
      (details.attributedOwner account).map fun owner =>
        (owner, ⟨account.2, details.tokenChange account⟩)

end ParsedDetails

/-- The changes of all accounts, in whatever order the maps list them. Source:
`analyzer/balance.rs`, `BalanceAnalysis` -/
structure BalanceAnalysis (details : ParsedDetails) where
  solChanges : List (String × ℚ)
  tokenChanges : List (String × TokenBalanceChange)
  sol_perm : solChanges.Perm details.extractSolBalanceChanges
  token_perm : tokenChanges.Perm details.extractTokenBalanceChanges

/-- Source: `analyzer/balance.rs`, `is_rent_amount`, `COMMON_RENT_AMOUNTS` -/
def isRentAmount (lamports : ℕ) : Bool :=
  [2039280, 1461600, 890880].any fun known => decide (|(lamports : ℤ) - known| ≤ 150000)

/-- Source: `analyzer/balance.rs` -/
def isTipTransfer (account : String) (amount : ℚ) : Bool :=
  isMevTipAddress account && decide (amount ≤ 1 / 100)

namespace BalanceAnalysis

variable {details : ParsedDetails} (analysis : BalanceAnalysis details)

/-- Source: `analyzer/balance.rs`, `filter_noise_transfers`, `analyze_balance_changes`,
`total_tips` -/
def totalTips : ℚ :=
  max ((analysis.solChanges.filter fun change =>
      !isRentAmount (toRaw |change.2|) && isTipTransfer change.1 |change.2|).map
        fun change => |change.2|).sum
    details.detectMevTipsFromInstructions

/-- Source: `sol_changes.get` -/
def solChange (account : String) : Option ℚ := analysis.solChanges.lookup account

/-- The changes of a mint, of any owner. -/
def changesOf (mint : String) : List ℚ :=
  ((analysis.tokenChanges.map Prod.snd).filter (·.mint == mint)).map (·.change)

/-- Source: `processor/helpers_wsol.rs` -/
def findOwnerWsolChangeUi (wallet : String) : Option ℚ :=
  (analysis.tokenChanges.find? fun entry =>
    entry.1 == wallet && entry.2.mint == solMint && decide (entry.2.change < 0)).map fun entry =>
      |entry.2.change|

end BalanceAnalysis

/-! ## Rent, fees and the largest changes -/

/-- Source: `analyzer/ata.rs`, `identify_rent_pattern`, `STANDARD_RENTS`, `MAX_EXPECTED_RENT` -/
def identifyRentPattern (lamports : ℕ) : Bool :=
  decide (lamports ≤ 10000000000) &&
    [2039280, 1461600, 890880, 1002240, 5616720].any fun known => decide
    (|(lamports : ℤ) - known| ≤ 150000)

/-- Lamports by account, the most of each. Source: `analyzer/ata.rs`, `consolidate_operations` -/
def consolidated (operations : List (String × ℕ)) : ℕ :=
  ((operations.map Prod.fst).dedup.map fun account =>
    ((operations.filter (·.1 == account)).map Prod.snd).foldl max 0).sum

namespace ParsedDetails

variable (details : ParsedDetails)

/-- In lamports; what is read from instructions carries no rent. Source: `analyzer/ata.rs`,
`extract_from_balance_changes`, `calculate_rent_summary` -/
def totalRentPaid : ℕ :=
  let entries :=
      details.accountKeys.zip (details.metadata.preBalances.zip details.metadata.postBalances)
  consolidated ((entries.filter fun entry =>
    identifyRentPattern entry.2.2 && entry.2.1 == 0 && entry.2.2 != 0).map fun entry =>
      (entry.1, entry.2.2))

/-- In lamports. Source: `analyzer/ata.rs`, `extract_from_balance_changes`,
`calculate_rent_summary` -/
def totalRentRecovered : ℕ :=
  let entries :=
      details.accountKeys.zip (details.metadata.preBalances.zip details.metadata.postBalances)
  consolidated ((entries.filter fun entry =>
    identifyRentPattern entry.2.1 && entry.2.2 == 0 && entry.2.1 != 0).map fun entry =>
      (entry.1, entry.2.1))

/-- Source: `analyzer/ata.rs`, `calculate_rent_summary`, `net_rent_cost` -/
def netRentCost : ℚ := ((details.totalRentPaid : ℚ) - details.totalRentRecovered) / 10 ^ 9

/-- Source: `chains/solana/constants.rs`, the compute budget program -/
def computeBudgetProgram : String := "ComputeBudget111111111111111111111111111111"

/-- Source: `calculate_fee_breakdown`, `cu_limit` -/
def unitLimitOf (instruction : Instruction) : Option ℕ :=
  match instruction.parsed with
  | some _ => (instruction.infoOf ["setComputeUnitLimit"]).bind (·.unitLimit)
  | none =>
    if instruction.programId = some computeBudgetProgram then
      match instruction.data with
      | 2 :: rest => if 4 ≤ rest.length then some (fromLeBytes (rest.take 4)) else none
      | _ => none
    else none

/-- Source: `calculate_fee_breakdown`, `cu_price_micro_lamports` -/
def unitPriceOf (instruction : Instruction) : Option ℕ :=
  match instruction.parsed with
  | some _ => (instruction.infoOf ["setComputeUnitPrice"]).bind (·.microLamports)
  | none =>
    if instruction.programId = some computeBudgetProgram then
      match instruction.data with
      | 3 :: rest => if 8 ≤ rest.length then some (fromLeBytes (rest.take 8)) else none
      | _ => none
    else none

/-- The fee of the signatures and the rest of it, in lamports. Source: `calculate_fee_breakdown`,
from the `meta.fee` -/
def signatureFees : ℕ × ℕ :=
  let baseSigLamports := min (5000 * details.signatures) maxU64
  if baseSigLamports ≤ details.metadata.fee then
    (baseSigLamports, details.metadata.fee - baseSigLamports)
  else (details.metadata.fee, 0)

/-- The base fee and the priority fee, in lamports: a price of compute units replaces the priority
fee. Source: `calculate_fee_breakdown` -/
def networkFees : ℕ × ℕ :=
  match (details.allInstructions.filterMap unitPriceOf).getLast? with
  | none => details.signatureFees
  | some priceMicro =>
    let units := (details.computeUnitsConsumed <|>
      (details.allInstructions.filterMap unitLimitOf).getLast?).getD 0
    let prioLamports := min (priceMicro * units) maxU64 / 1000000
    (details.metadata.fee - prioLamports, prioLamports)

end ParsedDetails

/-- In SOL. Source: `FeeBreakdown` -/
structure FeeBreakdown where
  baseFee : ℚ
  priorityFee : ℚ
  mevTips : ℚ
  swapFees : ℚ
  rentCosts : ℚ

/-- Source: `calculate_fee_breakdown`, `total_fees` -/
def FeeBreakdown.totalFees (fees : FeeBreakdown) : ℚ :=
  fees.baseFee + fees.priorityFee + fees.mevTips + fees.rentCosts + fees.swapFees

/-- Source: `analyzer/classify.rs` -/
inductive SwapDirection where
  | solToToken | tokenToSol | tokenToToken
  deriving DecidableEq

/-- Source: `analyzer/classify.rs`, `TransactionClass`, of a swap -/
structure SwapClass where
  direction : SwapDirection
  primaryToken : String

/-- Source: `SwapPnL`, what the swap is told from -/
structure SwapPnL where
  tokenAmount : ℚ
  solAmountAdjusted : ℚ
  pricePerToken : ℚ

namespace BalanceAnalysis

variable {details : ParsedDetails} (analysis : BalanceAnalysis details)

/-- Source: `calculate_fee_breakdown` -/
def calculateFeeBreakdown : FeeBreakdown where
  baseFee := lamportsToSol details.networkFees.1
  priorityFee := lamportsToSol details.networkFees.2
  mevTips :=
    if analysis.totalTips ≤ f64Epsilon then
      if 0 < details.detectMevTipsFromInstructions then details.detectMevTipsFromInstructions
      else analysis.totalTips
    else analysis.totalTips
  swapFees := (analysis.solChanges.map fun change => |change.2|).sum / 1000
  rentCosts := details.netRentCost

/-- The magnitude of the largest change of a mint, whoever owns the account. Source:
`find_largest_token_change` -/
def findLargestTokenChange (mint : String) : Option ℚ :=
  let largest := ((analysis.changesOf mint).map abs).foldl max 0
  if 0 < largest then some largest else none

/-- The magnitude of the largest change that is not rent. Source: `find_corresponding_sol_change` -/
def findCorrespondingSolChange : Option ℚ :=
  ((analysis.solChanges.map fun change => |change.2|).filter fun amount => !isRentAmount
    (toRaw amount)).max?

/-- Source: `calculate_main_swap_pnl` -/
def calculateMainSwapPnl (classification : SwapClass) : Option SwapPnL := do
  let tokenAmount ← analysis.findLargestTokenChange classification.primaryToken
  let solAmount ← analysis.findCorrespondingSolChange
  let totalFees := analysis.calculateFeeBreakdown.totalFees
  let solAmountAdjusted :=
    match classification.direction with
    | .solToToken => solAmount - totalFees
    | .tokenToSol => solAmount + totalFees
    | .tokenToToken => solAmount
  some ⟨tokenAmount, solAmountAdjusted, solAmountAdjusted / tokenAmount⟩

end BalanceAnalysis

end Dripline.Transactions
