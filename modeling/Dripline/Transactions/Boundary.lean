import Mathlib.Algebra.Order.BigOperators.Group.List
import Mathlib.Tactic.Ring
import Dripline.Transactions.Extract

/-!
# What crosses the boundary of a wallet

`chains/solana/transactions/deltas.rs`: the rows of a transaction against the lamports and the
tokens of the wallet and its token accounts.

* `extract_spec` — a token has its change in at most one row; SOL and wSOL have together what
  crossed the boundary, but for that reserve.
-/

namespace Dripline.Transactions

open Dripline.Chain List

/-! ## The boundary -/

/-- The token accounts of the wallet, other than the wallet itself. -/
def ownAccounts (subjectAddress : String) (metadata : TransactionMeta) (subjectIndex : ℕ) :
    List (ℕ × String) :=
  (ownedAccountMints (ownedBalances subjectAddress metadata.preTokenBalances ++
    ownedBalances subjectAddress metadata.postTokenBalances)).filter (·.1 != subjectIndex)

/-- What accounts gained in lamports. -/
def lamportsOf (metadata : TransactionMeta) (accounts : List (ℕ × String)) : ℤ :=
  (accounts.map fun account => lamportsDelta metadata account.1).sum

/-- The fee, when the wallet paid it. -/
def feePaid (metadata : TransactionMeta) (subjectIndex : ℕ) : ℤ :=
  if subjectIndex = 0 then metadata.fee else 0

/-- The lamports that crossed the boundary of the wallet and all its token accounts, and the fee it
paid. -/
def boundaryLamports (subjectAddress : String) (metadata : TransactionMeta) (subjectIndex : ℕ) : ℤ :=
  lamportsDelta metadata subjectIndex +
    lamportsOf metadata (ownAccounts subjectAddress metadata subjectIndex) +
    feePaid metadata subjectIndex

/-- What the balance of a mint changed by over the accounts the wallet owns. -/
def netChange (subjectAddress : String) (metadata : TransactionMeta) (mint : String) : ℤ :=
  amountByMint (ownedBalances subjectAddress metadata.postTokenBalances) mint -
    amountByMint (ownedBalances subjectAddress metadata.preTokenBalances) mint

/-- What the wSOL accounts of the wallet gained in lamports beyond the wSOL they gained: the rent
they were opened with, less what came back of it. -/
def wrappedReserve (subjectAddress : String) (metadata : TransactionMeta) (subjectIndex : ℕ) : ℤ :=
  lamportsOf metadata
      ((ownAccounts subjectAddress metadata subjectIndex).filter (·.2 == solMint)) -
    netChange subjectAddress metadata solMint

/-- The sum of the rows of a mint. -/
def rowsTotal (rows : List SubjectAssetDelta) (mint : String) : ℤ :=
  ((rows.filter (·.mint == mint)).map (·.deltaRaw)).sum

/-! ## The rows -/

/-- The rows of the tokens: one at most for a mint, together its change, and each between the
balances it had around it. -/
structure TokenRows (subjectAddress : String) (metadata : TransactionMeta)
    (rows : List SubjectAssetDelta) : Prop where
  once : ∀ mint, (rows.filter (·.mint == mint)).length ≤ 1
  total : ∀ mint, rowsTotal rows mint = netChange subjectAddress metadata mint
  sides : ∀ row ∈ rows,
    row.beforeRaw =
        (amountByMint (ownedBalances subjectAddress metadata.preTokenBalances) row.mint).toNat? ∧
      row.afterRaw =
        (amountByMint (ownedBalances subjectAddress metadata.postTokenBalances) row.mint).toNat?

/-- The row of SOL, which is left out where no more than a fee moved. -/
structure NativeRow (lamports : ℤ) (rows : List SubjectAssetDelta) : Prop where
  named : ∀ row ∈ rows, row.mint = nativeSolSentinel
  once : rows.length ≤ 1
  total : rows ≠ [] → (rows.map (·.deltaRaw)).sum = lamports
  noise : rows = [] → lamports.natAbs ≤ nativeNoiseLamports

section Amounts

variable {owned : List TokenBalance} {mint : String}

lemma amountByMint_of_not_mem (h : mint ∉ ownedMints owned) : amountByMint owned mint = 0 := by
  have hnone : owned.filter (·.mint == mint) = [] := by
    rw [filter_eq_nil_iff]
    intro balance hbalance hmint
    refine h ?_
    rw [ownedMints, mem_dedup]
    exact mem_map.mpr ⟨balance, hbalance, by simpa using hmint⟩
  simp [amountByMint, hnone]

lemma mem_ownedMints_append {pre post : List TokenBalance} :
    mint ∈ ownedMints (pre ++ post) ↔ mint ∈ ownedMints pre ∨ mint ∈ ownedMints post := by
  simp [ownedMints, mem_dedup]

end Amounts

/-- The mints whose balance changed. Source: `chains/solana/transactions/deltas.rs`,
`token_deltas` -/
def changedMints (subjectAddress : String) (metadata : TransactionMeta) : List String :=
  (ownedMints (ownedBalances subjectAddress metadata.preTokenBalances ++
    ownedBalances subjectAddress metadata.postTokenBalances)).filter fun mint =>
      netChange subjectAddress metadata mint != 0

section Rows

variable {subjectAddress : String} {metadata : TransactionMeta}

lemma netChange_of_not_mem {mint : String} (h : mint ∉ changedMints subjectAddress metadata) :
    netChange subjectAddress metadata mint = 0 := by
  by_contra hchanged
  have hnone : mint ∉ ownedMints (ownedBalances subjectAddress metadata.preTokenBalances ++
      ownedBalances subjectAddress metadata.postTokenBalances) := fun howned =>
    h (mem_filter.mpr ⟨howned, by simpa using hchanged⟩)
  rw [mem_ownedMints_append, not_or] at hnone
  apply hchanged
  rw [netChange, amountByMint_of_not_mem hnone.1, amountByMint_of_not_mem hnone.2, sub_zero]

lemma tokenRows_map (row : String → SubjectAssetDelta) (hmint : ∀ mint, (row mint).mint = mint)
    (hdelta : ∀ mint, (row mint).deltaRaw = netChange subjectAddress metadata mint)
    (hbefore : ∀ mint, (row mint).beforeRaw =
      (amountByMint (ownedBalances subjectAddress metadata.preTokenBalances) mint).toNat?)
    (hafter : ∀ mint, (row mint).afterRaw =
      (amountByMint (ownedBalances subjectAddress metadata.postTokenBalances) mint).toNat?) :
    TokenRows subjectAddress metadata ((changedMints subjectAddress metadata).map row) := by
  have hnodup : (changedMints subjectAddress metadata).Nodup := (nodup_dedup _).filter _
  have hfilter : ∀ mint, ((changedMints subjectAddress metadata).map row).filter (·.mint == mint) =
      if mint ∈ changedMints subjectAddress metadata then [row mint] else [] := by
    intro mint
    have hsame : ((fun r : SubjectAssetDelta => r.mint == mint) ∘ row) = (· == mint) := by
      funext other
      simp [hmint]
    rw [filter_map, hsame, filter_beq]
    split
    case isTrue hmem => rw [count_eq_one_of_mem hnodup hmem, replicate_one,
      map_singleton]
    case isFalse hmem => rw [count_eq_zero_of_not_mem hmem, replicate_zero, map_nil]
  constructor
  · intro mint
    rw [hfilter]
    split <;> simp
  · intro mint
    rw [rowsTotal, hfilter]
    split
    case isTrue => simp [hdelta]
    case isFalse hmem => simp [netChange_of_not_mem hmem]
  · intro r hr
    obtain ⟨mint, -, rfl⟩ := mem_map.mp hr
    rw [hmint]
    exact ⟨hbefore mint, hafter mint⟩

lemma nativeRow_ite {row : SubjectAssetDelta} {lamports : ℤ} (hmint : row.mint = nativeSolSentinel)
    (hdelta : row.deltaRaw = lamports) :
    NativeRow lamports (if nativeNoiseLamports < lamports.natAbs then [row] else []) := by
  constructor
  · intro r hr
    split at hr
    · rw [mem_singleton.mp hr, hmint]
    · cases hr
  · split <;> simp
  · split <;> simp [hdelta]
  · split <;> simp_all

end Rows

lemma lamportsOf_split (metadata : TransactionMeta) (accounts : List (ℕ × String)) :
    lamportsOf metadata accounts =
      lamportsOf metadata (accounts.filter (·.2 == solMint)) +
        lamportsOf metadata (accounts.filter fun account => !(account.2 == solMint)) := by
  induction accounts with
  | nil => rfl
  | cons account accounts ih =>
    have hcons : ∀ l : List (ℕ × String), lamportsOf metadata (account :: l) =
        lamportsDelta metadata account.1 + lamportsOf metadata l := fun _ => sum_cons
    rw [hcons, ih]
    cases hmint : account.2 == solMint with
    | true =>
      simp only [filter_cons, hmint, if_true, Bool.not_true, Bool.false_eq_true, if_false,
        hcons]
      ring
    | false =>
      simp only [filter_cons, hmint, if_true, Bool.not_false, Bool.false_eq_true, if_false,
        hcons]
      ring

lemma nativeDelta_eq (subjectAddress : String) (metadata : TransactionMeta) (subjectIndex : ℕ) :
    nativeDelta metadata subjectIndex
        (ownedAccountMints (ownedBalances subjectAddress metadata.preTokenBalances ++
          ownedBalances subjectAddress metadata.postTokenBalances)) =
      boundaryLamports subjectAddress metadata subjectIndex -
        lamportsOf metadata
          ((ownAccounts subjectAddress metadata subjectIndex).filter (·.2 == solMint)) := by
  have hothers : (ownedAccountMints (ownedBalances subjectAddress metadata.preTokenBalances ++
        ownedBalances subjectAddress metadata.postTokenBalances)).filter
          (fun account => !(account.1 == subjectIndex || account.2 == solMint)) =
      (ownAccounts subjectAddress metadata subjectIndex).filter
        fun account => !(account.2 == solMint) := by
    rw [ownAccounts, filter_filter]
    congr 1
    funext account
    rw [Bool.not_or, Bool.and_comm]
    rfl
  unfold nativeDelta boundaryLamports feePaid
  rw [hothers, lamportsOf_split metadata (ownAccounts subjectAddress metadata subjectIndex)]
  simp only [lamportsOf]
  ring

/-! ## The extraction -/

section Extraction

variable {subjectAddress : String} {transaction : Transaction} {raw : RawJson}
  {txData : TransactionDetails} {metadata : TransactionMeta} {subjectIndex : ℕ}

variable (subjectAddress transaction raw txData metadata subjectIndex) in
lemma extractAt_spec :
    ∃ tokens lamportRows,
      extractAt subjectAddress transaction raw txData metadata subjectIndex = tokens ++ lamportRows ∧
        TokenRows subjectAddress metadata tokens ∧
        NativeRow (boundaryLamports subjectAddress metadata subjectIndex -
          lamportsOf metadata
            ((ownAccounts subjectAddress metadata subjectIndex).filter (·.2 == solMint)))
              lamportRows := by
  refine ⟨_, _, rfl, tokenRows_map _ (fun _ => rfl) (fun _ => rfl) (fun _ => rfl) (fun _ => rfl), ?_⟩
  rw [← nativeDelta_eq]
  simp only [decide_eq_true_eq]
  exact nativeRow_ite rfl rfl

lemma extract_of_absent (hraw : transaction.rawTransactionData = some raw)
    (hdetails : raw.details = some txData) (hmetadata : txData.metadata = some metadata)
    (habsent : subjectAddress ∉ txData.accountKeys) :
    extractSubjectDeltas subjectAddress transaction = [] := by
  have hindex : txData.accountKeys.findIdx? (· == subjectAddress) = none := by
    rw [List.findIdx?_eq_none_iff]
    intro key hkey
    have : key ≠ subjectAddress := fun h => habsent (h ▸ hkey)
    simpa using this
  unfold extractSubjectDeltas
  simp [hraw, hdetails, hmetadata, hindex]

lemma extract_of_index (hsuccess : transaction.success = true)
    (hraw : transaction.rawTransactionData = some raw) (hdetails : raw.details = some txData)
    (hmetadata : txData.metadata = some metadata)
    (hindex : txData.accountKeys.findIdx? (· == subjectAddress) = some subjectIndex) :
    extractSubjectDeltas subjectAddress transaction =
      extractAt subjectAddress transaction raw txData metadata subjectIndex := by
  unfold extractSubjectDeltas
  simp [hsuccess, hraw, hdetails, hmetadata, hindex]

end Extraction

/-- **Value is conserved**: in a successful transaction a wallet that is not among the accounts has
no rows; for one that is, a token has its change over the wallet's accounts in one row at most, and
SOL and wSOL have together what crossed the boundary of the wallet and its accounts, the fee it paid
added, but for what its wSOL accounts gained beyond their wSOL, and for a row of SOL that is within
the noise. -/
theorem extract_spec (subjectAddress : String) (transaction : Transaction) (raw : RawJson)
    (txData : TransactionDetails) (metadata : TransactionMeta) (hsuccess : transaction.success = true)
    (hraw : transaction.rawTransactionData = some raw) (hdetails : raw.details = some txData)
    (hmetadata : txData.metadata = some metadata) :
    (subjectAddress ∉ txData.accountKeys → extractSubjectDeltas subjectAddress transaction = []) ∧
    ∀ subjectIndex, txData.accountKeys.findIdx? (· == subjectAddress) = some subjectIndex →
      ∃ tokens lamportRows, extractSubjectDeltas subjectAddress transaction = tokens ++ lamportRows ∧
        TokenRows subjectAddress metadata tokens ∧
        (∀ row ∈ lamportRows, row.mint = nativeSolSentinel) ∧ lamportRows.length ≤ 1 ∧
        (lamportRows ≠ [] →
          (lamportRows.map (·.deltaRaw)).sum + rowsTotal tokens solMint =
            boundaryLamports subjectAddress metadata subjectIndex -
              wrappedReserve subjectAddress metadata subjectIndex) ∧
        (lamportRows = [] →
          (rowsTotal tokens solMint - (boundaryLamports subjectAddress metadata subjectIndex -
            wrappedReserve subjectAddress metadata subjectIndex)).natAbs ≤ nativeNoiseLamports) := by
  refine ⟨fun habsent => extract_of_absent hraw hdetails hmetadata habsent, ?_⟩
  intro subjectIndex hindex
  obtain ⟨tokens, lamportRows, hrows, htokens, hnative⟩ :=
    extractAt_spec subjectAddress transaction raw txData metadata subjectIndex
  refine ⟨tokens, lamportRows, ?_, htokens, hnative.named, hnative.once, ?_, ?_⟩
  · rw [extract_of_index hsuccess hraw hdetails hmetadata hindex, hrows]
  · intro hsome
    rw [hnative.total hsome, htokens.total, wrappedReserve]
    ring
  · intro hnone
    have hnoise := hnative.noise hnone
    rw [htokens.total, wrappedReserve]
    omega

/-! ### One SOL is wrapped -/

/-- A new wSOL account is opened with one SOL, and stays open. -/
def wrapMetadata : TransactionMeta where
  preBalances := [10000000000, 0]
  postBalances := [8997955720, 1002039280]
  preTokenBalances := none
  postTokenBalances := some [⟨1, solMint, some "SUBJECT", ⟨"1000000000", 9⟩⟩]
  fee := 5000

/-- The transaction as it is decoded. -/
def wrapDetails : TransactionDetails where
  slot := 100
  blockTime := some 1000
  accountKeys := ["SUBJECT", "WSOL-ACCOUNT"]
  programIds := []
  metadata := some wrapMetadata

/-- The transaction that wraps. -/
def wrapTransaction : Transaction where
  signature := "wrap-signature"
  success := true
  rawTransactionData := some ⟨some wrapDetails, some 0⟩
  slot := none
  blockTime := none

/-- What the rows of the wrap say. -/
theorem extract_spec_wrap :
    ("SUBJECT" ∉ wrapDetails.accountKeys → extractSubjectDeltas "SUBJECT" wrapTransaction = []) ∧
    ∀ subjectIndex, wrapDetails.accountKeys.findIdx? (· == "SUBJECT") = some subjectIndex →
      ∃ tokens lamportRows, extractSubjectDeltas "SUBJECT" wrapTransaction = tokens ++ lamportRows ∧
        TokenRows "SUBJECT" wrapMetadata tokens ∧
        (∀ row ∈ lamportRows, row.mint = nativeSolSentinel) ∧ lamportRows.length ≤ 1 ∧
        (lamportRows ≠ [] →
          (lamportRows.map (·.deltaRaw)).sum + rowsTotal tokens solMint =
            boundaryLamports "SUBJECT" wrapMetadata subjectIndex -
              wrappedReserve "SUBJECT" wrapMetadata subjectIndex) ∧
        (lamportRows = [] →
          (rowsTotal tokens solMint - (boundaryLamports "SUBJECT" wrapMetadata subjectIndex -
            wrappedReserve "SUBJECT" wrapMetadata subjectIndex)).natAbs ≤ nativeNoiseLamports) :=
  extract_spec "SUBJECT" wrapTransaction ⟨some wrapDetails, some 0⟩ wrapDetails wrapMetadata rfl rfl
    rfl rfl

/-- Nothing crosses the boundary, and the rows have the rent of the new account leave it. -/
theorem not_conserved :
    ¬ ∀ (subjectAddress : String) (transaction : Transaction) (raw : RawJson)
        (txData : TransactionDetails) (metadata : TransactionMeta) (subjectIndex : ℕ),
      transaction.success = true → transaction.rawTransactionData = some raw →
      raw.details = some txData → txData.metadata = some metadata →
      txData.accountKeys.findIdx? (· == subjectAddress) = some subjectIndex →
      (rowsTotal (extractSubjectDeltas subjectAddress transaction) nativeSolSentinel +
          rowsTotal (extractSubjectDeltas subjectAddress transaction) solMint -
        boundaryLamports subjectAddress metadata subjectIndex).natAbs ≤ nativeNoiseLamports := by
  intro h
  exact absurd (h "SUBJECT" wrapTransaction ⟨some wrapDetails, some 0⟩ wrapDetails wrapMetadata 0 rfl
    rfl rfl rfl (by decide)) (by decide)

end Dripline.Transactions
