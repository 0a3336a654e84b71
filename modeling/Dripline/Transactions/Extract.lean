import Dripline.Transactions.Delta
import Mathlib.Data.List.Dedup
import Mathlib.Algebra.BigOperators.Group.List.Basic
import Mathlib.Algebra.Ring.Int.Defs

/-!
# Extraction of balance deltas

What one decoded transaction did to the balances of a wallet: one row for each mint whose balance in
the wallet's own accounts changed, and one for SOL when more than a fee moved.

A source without a file is in `chains/solana/transactions/deltas.rs`.
-/

namespace Dripline.Transactions

open Dripline.Chain List

/-! ## The reply of the chain -/

/-- Source: `chains/solana/rpc/types.rs` -/
structure UiTokenAmount where
  amount : String
  decimals : ℕ
  deriving DecidableEq

/-- Source: `chains/solana/rpc/types.rs` -/
structure TokenBalance where
  accountIndex : ℕ
  mint : String
  owner : Option String
  uiTokenAmount : UiTokenAmount
  deriving DecidableEq

/-- Balances around a transaction, in lamports and in tokens. Source: `chains/solana/rpc/types.rs`,
`TransactionMeta` -/
structure TransactionMeta where
  preBalances : List ℕ
  postBalances : List ℕ
  preTokenBalances : Option (List TokenBalance)
  postTokenBalances : Option (List TokenBalance)
  fee : ℕ
  deriving DecidableEq

/-- `accountKeys` and `programIds` are what `account_keys_from_message` and `extract_program_ids`
read from the message. Source: `chains/solana/rpc/types.rs` -/
structure TransactionDetails where
  slot : ℕ
  blockTime : Option ℤ
  accountKeys : List String
  programIds : List String
  metadata : Option TransactionMeta
  deriving DecidableEq

/-- A JSON value: the details it decodes to, if it does, and its `transactionIndex`. -/
structure RawJson where
  details : Option TransactionDetails
  transactionIndex : Option ℕ
  deriving DecidableEq

/-- A transaction, as far as the extraction reads it. Source: `transactions/types.rs`,
`Transaction` -/
structure Transaction where
  signature : String
  success : Bool
  rawTransactionData : Option RawJson
  slot : Option ℕ
  blockTime : Option ℤ

/-! ## Venues -/

/-- The router of a known program. Source: `chains/solana/transactions/program_ids.rs`,
`detect_router_from_program_id` -/
def detectRouterFromProgramId (programId : String) : Option String :=
  if programId ∈ ["JUP6LkbZbjS1jKKwapdHNy74zcZ3tLUZoi5QNyVTaV4",
      "JUP4Fb2cqiRUcaTHdrPC8h2gNsA2ETXiPDD33WcGuJB",
      "JUP3c2Uh3WA4Ng34tw6kPd2G4C5BB21Xo36Je1s32Ph"] then some "jupiter"
  else if programId = "GMGNjvGr7ddxt2u1XSf8Zo6LLnDjDm9mJahGfhq7j6gk" then some "gmgn"
  else if programId = "RaptorD5ojtsqDDtJeRsunPLg6GvLYNnwKJWxYE4m87" then some "raptor"
  else if programId ∈ ["CPMMoo8L3F4NbTegBCKVNunggL7H1ZpdTHKxQB5qKP1C",
      "675kPX9MHTjS2zt1qfr1NYHuzeLXfQM9H24wFSUt1Mp8",
      "CAMMCzo5YL8w4VFF8KVHrK22GGUsp5VTaW7grrKgrWqK"] then some "raydium"
  else if programId ∈ ["whirLbMiicVdio4qvUfM5KAg6Ct8VwpYzGff3uctyCc",
      "9W959DqEETiGZocYWCQPaJ6sBmUzgfxXfqGeTEdp3aQP"] then some "orca"
  else if programId ∈ ["cpamdpZCGKUy5JxQXB4dcpGPiikHawvSWAd6mEn1sGG",
      "LBUZKhRxPF3XUpBCjp4YzTKgLccjZhTSDM9YuVaPwxo",
      "dbcij3LWUppWqq96dh6gJWwBifmcGfLSB5D4DuSMaqN"] then some "meteora"
  else if programId ∈ ["pAMMBay6oceH9fJKBRHGP5D4bD4sWpmSwMn52FMfXEA",
      "6EF8rrecthR5Dkzon8Nwu78hRvfCKubJ14M5uBEwF6P"] then some "pumpfun"
  else if programId = "MoonCVVNZFSYkqNXP6bxHLPL6QQJiMagDL3qcqUQTrG" then some "moonshot"
  else if programId = "FLUXubRmkEi2q6K3Y9kBPg9248ggaZVsoSFhtJHSrm1X" then some "fluxbeam"
  else none

/-- Programs that never make a transaction a DeFi interaction. Source: `SYSTEM_LEVEL_PROGRAM_IDS` -/
def systemLevelProgramIds : List String :=
  ["11111111111111111111111111111111",
    "ComputeBudget111111111111111111111111111111",
    "TokenkegQfeZyiNwAJbNbGKPFXCWuBvf9Ss623VQ5DA",
    "TokenzQdBNbLqP5VEhdkAS6EPFLC1PHnBqCXEpPxuEb",
    "ATokenGPvbdGVxr1b2hvZbsiqW5xWH25efTNsLJA8knL",
    "Sysvar1nstructions1111111111111111111111111"]

/-- Below this a change of SOL is fee noise, in lamports. Source: `NATIVE_NOISE_LAMPORTS` -/
def nativeNoiseLamports : ℕ := 50000

/-! ## Amounts -/

/-- The value of decimal digits. -/
def digitsValue : List Char → Option ℕ
  | [] => none
  | digits => digits.foldlM
      (fun value digit => if digit.isDigit then some (10 * value + (digit.toNat - '0'.toNat)) else
        none) 0

/-- An amount that is no `i128` counts as zero. Source: `parse_raw_amount` -/
def parseRawAmount (amount : String) : ℤ :=
  let value : Option ℤ := match amount.toList with
    | '-' :: digits => (digitsValue digits).map fun n => -(n : ℤ)
    | '+' :: digits => (digitsValue digits).map fun n => (n : ℤ)
    | digits => (digitsValue digits).map fun n => (n : ℤ)
  match value with
  | some v => if -(2 ^ 127) ≤ v ∧ v < 2 ^ 127 then v else 0
  | none => 0

/-- The balances of the subject's own token accounts. -/
def ownedBalances (subjectAddress : String) (balances : Option (List TokenBalance)) :
    List TokenBalance :=
  (balances.getD []).filter (·.owner == some subjectAddress)

variable (owned : List TokenBalance)

/-- The sum of a mint's balances. -/
def amountByMint (mint : String) : ℤ :=
  ((owned.filter (·.mint == mint)).map (parseRawAmount ·.uiTokenAmount.amount)).sum

/-- The decimals of a mint, as the last of its balances has them. -/
def decimalsByMint (mint : String) : ℕ :=
  (owned.filter (·.mint == mint)).getLast?.elim 0 (·.uiTokenAmount.decimals)

/-- The subject's token accounts with their mints; the last balance of an account has it. -/
def ownedAccountMints : List (ℕ × String) :=
  (owned.map (·.accountIndex)).dedup.filterMap fun accountIndex =>
    (owned.filter (·.accountIndex == accountIndex)).getLast?.map fun balance =>
      (accountIndex, balance.mint)

/-- The mints of the subject's token accounts. -/
def ownedMints : List String := (owned.map (·.mint)).dedup

/-- What the lamports of an account changed by. -/
def lamportsDelta (metadata : TransactionMeta) (index : ℕ) : ℤ :=
  (metadata.postBalances.getD index 0 : ℤ) - metadata.preBalances.getD index 0

/-- The SOL the subject moved: the fee it paid is added back, and so is the rent of its token
accounts. Source: `extract_subject_deltas` -/
def nativeDelta (metadata : TransactionMeta) (subjectIndex : ℕ)
    (accounts : List (ℕ × String)) : ℤ :=
  let own := lamportsDelta metadata subjectIndex + if subjectIndex = 0 then (metadata.fee : ℤ) else 0
  let rent := (accounts.filter fun account =>
    !(account.1 == subjectIndex || account.2 == solMint)).map fun account =>
      lamportsDelta metadata account.1
  own + rent.sum

/-! ## Rows -/

/-- A known venue makes a trade, an asset that moved a transfer, a program that is not of the system
DeFi. Source: `extract_subject_deltas` -/
def deltaKind (venue : Option String) (moved : Bool) (programIds : List String) : DeltaKind :=
  if venue.isSome then .trade
  else if moved then .transfer
  else if programIds.any (· ∉ systemLevelProgramIds) then .deFi
  else .other

/-- The rows of a transaction whose metadata is there and whose accounts have the subject at an
index. Source: `extract_subject_deltas` -/
def extractAt (subjectAddress : String) (transaction : Transaction) (raw : RawJson)
    (txData : TransactionDetails) (metadata : TransactionMeta) (subjectIndex : ℕ) :
    List SubjectAssetDelta :=
  let slot := (some txData.slot).filter (0 < ·) <|> transaction.slot
  let blockTime := txData.blockTime <|> transaction.blockTime
  let txIndex := raw.transactionIndex.getD 0
  let venue := txData.programIds.findSome? detectRouterFromProgramId
  let pre := ownedBalances subjectAddress metadata.preTokenBalances
  let post := ownedBalances subjectAddress metadata.postTokenBalances
  let tokenDeltas := (ownedMints (pre ++ post)).filter fun mint =>
    amountByMint post mint - amountByMint pre mint != 0
  let native := nativeDelta metadata subjectIndex (ownedAccountMints (pre ++ post))
  let nativeAboveNoise := decide (nativeNoiseLamports < native.natAbs)
  let kind := deltaKind venue (!tokenDeltas.isEmpty || nativeAboveNoise) txData.programIds
  let row (mint : String) (delta before after : ℤ) (decimals : ℕ) : SubjectAssetDelta :=
    { chain := .solana, walletAddress := subjectAddress, signature := transaction.signature
      mint, slot, blockTime, txIndex := txIndex % 2 ^ 32, deltaRaw := delta
      beforeRaw := before.toNat?, afterRaw := after.toNat?, decimals, kind, venue
      feeNativeRaw := some metadata.fee, success := transaction.success }
  tokenDeltas.map (fun mint =>
    row mint (amountByMint post mint - amountByMint pre mint) (amountByMint pre mint)
      (amountByMint post mint) (decimalsByMint (pre ++ post) mint)) ++
    if nativeAboveNoise then
      [row nativeSolSentinel native (metadata.preBalances.getD subjectIndex 0)
        (metadata.postBalances.getD subjectIndex 0) 9]
    else []

/-- Every asset movement of the subject in one decoded transaction; a malformed or missing part
yields none. Source: `extract_subject_deltas` -/
def extractSubjectDeltas (subjectAddress : String) (transaction : Transaction) :
    List SubjectAssetDelta :=
  if !transaction.success then []
  else
    match transaction.rawTransactionData with
    | none => []
    | some raw =>
      match raw.details with
      | none => []
      | some txData =>
        match txData.metadata with
        | none => []
        | some metadata =>
          match txData.accountKeys.findIdx? (· == subjectAddress) with
          | none => []
          | some subjectIndex =>
            extractAt subjectAddress transaction raw txData metadata subjectIndex

/-- The mints of the subject's balances in a transaction. -/
def Transaction.ownedMints (subjectAddress : String) (transaction : Transaction) : List String :=
  match transaction.rawTransactionData.bind (·.details) |>.bind (·.metadata) with
  | none => []
  | some metadata => Transactions.ownedMints (ownedBalances subjectAddress metadata.preTokenBalances ++
      ownedBalances subjectAddress metadata.postTokenBalances)

section key

variable {subjectAddress : String} {transaction : Transaction}

lemma exists_extractAt (h : extractSubjectDeltas subjectAddress transaction ≠ []) :
    ∃ raw txData metadata subjectIndex, transaction.rawTransactionData = some raw ∧
      raw.details = some txData ∧ txData.metadata = some metadata ∧
      extractSubjectDeltas subjectAddress transaction =
        extractAt subjectAddress transaction raw txData metadata subjectIndex := by
  unfold extractSubjectDeltas at h ⊢
  split_ifs at h ⊢ with hsuccess
  · exact absurd rfl h
  · cases hraw : transaction.rawTransactionData with
    | none => simp [hraw] at h
    | some raw =>
      cases hdetails : raw.details with
      | none => simp [hraw, hdetails] at h
      | some txData =>
        cases hmetadata : txData.metadata with
        | none => simp [hraw, hdetails, hmetadata] at h
        | some metadata =>
          cases hindex : txData.accountKeys.findIdx? (· == subjectAddress) with
          | none => simp [hraw, hdetails, hmetadata, hindex] at h
          | some subjectIndex =>
            exact ⟨raw, txData, metadata, subjectIndex, rfl, hdetails, hmetadata,
              by simp [hdetails, hmetadata, hindex]⟩

lemma extract_key {delta : SubjectAssetDelta}
    (h : delta ∈ extractSubjectDeltas subjectAddress transaction) :
    delta.walletAddress = subjectAddress ∧ delta.signature = transaction.signature := by
  obtain ⟨raw, txData, metadata, subjectIndex, -, -, -, heq⟩ :=
    exists_extractAt (ne_nil_of_mem h)
  rw [heq] at h
  unfold extractAt at h
  rcases mem_append.mp h with htoken | hnative
  · obtain ⟨mint, -, rfl⟩ := mem_map.mp htoken
    exact ⟨rfl, rfl⟩
  · dsimp only at hnative
    split at hnative
    · rw [mem_singleton.mp hnative]
      exact ⟨rfl, rfl⟩
    · cases hnative

lemma nodup_mints_extract
    (hnative : nativeSolSentinel ∉ transaction.ownedMints subjectAddress) :
    ((extractSubjectDeltas subjectAddress transaction).map (·.mint)).Nodup := by
  by_cases hnil : extractSubjectDeltas subjectAddress transaction = []
  · rw [hnil]
    exact nodup_nil
  obtain ⟨raw, txData, metadata, subjectIndex, hraw, hdetails, hmetadata, heq⟩ :=
    exists_extractAt hnil
  have howned : nativeSolSentinel ∉ ownedMints (ownedBalances subjectAddress
      metadata.preTokenBalances ++ ownedBalances subjectAddress metadata.postTokenBalances) := by
    simpa [Transaction.ownedMints, hraw, hdetails, hmetadata] using hnative
  rw [heq]
  unfold extractAt
  rw [map_append, map_map, nodup_append]
  refine ⟨?_, ?_, ?_⟩
  · show (List.map id _).Nodup
    rw [map_id]
    exact (nodup_dedup _).filter _
  · dsimp only
    split
    · exact nodup_singleton _
    · exact nodup_nil
  · intro mint hmint other hother hsame
    have hmem : mint ∈ List.map id _ := hmint
    rw [map_id] at hmem
    dsimp only at hother
    split at hother
    · rw [map_singleton, mem_singleton] at hother
      rw [hsame, hother] at hmem
      exact howned (mem_of_mem_filter hmem)
    · cases hother

end key

end Dripline.Transactions
