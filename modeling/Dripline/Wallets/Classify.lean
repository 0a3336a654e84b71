import Mathlib.Data.List.Sort
import Mathlib.Tactic.Linarith
import Dripline.Transactions.Boundary
import Dripline.Wallets.Activity

/-!
# What a transaction was

`chains/solana/wallets/classify.rs`: a decoded transaction as one activity of the wallet. A swap is
told by a program of a venue, its mint by the largest change.

* `faithful_iff_straight` — when it does.

A source without a file is in `classify.rs`, where a definition without a comment is the one
of its name.
-/

namespace Dripline.Wallets

open Dripline.Chain Dripline.Transactions List

/-! ## What is read -/

/-- A token balance with its amount as the wallet shows it. Source: `chains/solana/rpc/types.rs`,
`TokenBalance` -/
structure UiTokenBalance extends TokenBalance where
  uiAmount : Option ℚ

/-- Balances around a transaction. All the SOL there is fits the lamports of a balance or a fee.
Source: `chains/solana/rpc/types.rs`, `TransactionMeta` -/
structure UiMetadata where
  preBalances : List ℕ
  postBalances : List ℕ
  preTokenBalances : Option (List UiTokenBalance)
  postTokenBalances : Option (List UiTokenBalance)
  fee : ℕ
  lamports_lt : ∀ lamports ∈ fee :: (preBalances ++ postBalances), lamports < 2 ^ 62

/-- The same without the shown amounts. -/
def UiMetadata.plain (metadata : UiMetadata) : TransactionMeta where
  preBalances := metadata.preBalances
  postBalances := metadata.postBalances
  preTokenBalances := metadata.preTokenBalances.map (·.map (·.toTokenBalance))
  postTokenBalances := metadata.postTokenBalances.map (·.map (·.toTokenBalance))
  fee := metadata.fee

/-- What the message of a transaction has. Source: `chains/solana/rpc/types.rs`,
`TransactionDetails` -/
structure ActivityDetails where
  accountKeys : List String
  programIds : List String
  metadata : Option UiMetadata

/-- A transaction: its raw data may be missing, and may not parse. Source: `transactions/types.rs`,
`Transaction` -/
structure ActivityTransaction where
  success : Bool
  raw : Option (Option ActivityDetails)

/-- What the classification goes by. -/
structure Reading where
  programIds : List String
  metadata : UiMetadata
  subjectIndex : ℕ

/-- What can be read of a transaction, or why nothing can. Source: `classify_transaction_activity`,
up to `subject_index` -/
def ActivityTransaction.reading (subjectAddress : String) (transaction : ActivityTransaction) :
    Except String Reading :=
  match transaction.raw with
  | none => .error "no raw transaction data"
  | some none => .error "raw transaction data did not parse"
  | some (some details) =>
    match details.metadata with
    | none => .error "missing transaction meta"
    | some metadata =>
      match details.accountKeys.findIdx? (· == subjectAddress) with
      | none => .error "subject not among account keys"
      | some subjectIndex => .ok ⟨details.programIds, metadata, subjectIndex⟩

/-! ## SOL -/

/-- `as i64` of a `u64`. -/
def asI64 (n : ℕ) : ℤ := Int.bmod n (2 ^ 64)

/-- `i64` subtraction as the release build compiles it. -/
def wrappingSubI64 (a b : ℤ) : ℤ := Int.bmod (a - b) (2 ^ 64)

/-- `i64::saturating_add`. -/
def saturatingAddI64 (a b : ℤ) : ℤ := max (-(2 ^ 63)) (min (2 ^ 63 - 1) (a + b))

def feeNoiseLamports : ℤ := 50000

def epsilon : ℚ := 1 / 10 ^ 9

/-- Source: `chains/solana/constants.rs` -/
def lamportsToSol (lamports : ℕ) : ℚ := lamports / 10 ^ 9

namespace Reading

variable (reading : Reading) (subjectAddress : String)

def subjectSolDeltaLamports : ℤ :=
  wrappingSubI64 (asI64 (reading.metadata.postBalances.getD reading.subjectIndex 0))
    (asI64 (reading.metadata.preBalances.getD reading.subjectIndex 0))

/-- The SOL of the trade: the fee that was paid is added back. Source: `sol_delta_lamports` -/
def swapLamports : ℤ :=
  if reading.subjectIndex = 0 then
    saturatingAddI64 reading.subjectSolDeltaLamports (min reading.metadata.fee (2 ^ 63 - 1) : ℕ)
  else reading.subjectSolDeltaLamports

/-! ## Tokens -/

/-- The balances of the wallet's own accounts. -/
def owned (balances : Option (List UiTokenBalance)) : List UiTokenBalance :=
  (balances.getD []).filter (·.owner == some subjectAddress)

/-- What an account shows of a mint; the last balance has it. Source: `pre_map` and `post_map` -/
def uiAmountAt (balances : List UiTokenBalance) (account : ℕ × String) : ℚ :=
  (balances.filter fun balance =>
    balance.accountIndex == account.1 && balance.mint == account.2).getLast?.elim 0
      (·.uiAmount.getD 0)

/-- The accounts with their mints. Source: `keys` -/
def accounts : List (ℕ × String) :=
  ((owned subjectAddress reading.metadata.preTokenBalances ++
      owned subjectAddress reading.metadata.postTokenBalances).map fun balance =>
    (balance.accountIndex, balance.mint)).dedup

/-- What an account gained. -/
def accountDelta (account : ℕ × String) : ℚ :=
  uiAmountAt (owned subjectAddress reading.metadata.postTokenBalances) account -
    uiAmountAt (owned subjectAddress reading.metadata.preTokenBalances) account

/-- The accounts whose change is counted. -/
def counted : List (ℕ × String) :=
  (reading.accounts subjectAddress).filter fun account =>
    epsilon < |reading.accountDelta subjectAddress account|

/-- What accounts gained of a mint. -/
def deltaOver (accounts : List (ℕ × String)) (mint : String) : ℚ :=
  ((accounts.filter (·.2 == mint)).map (reading.accountDelta subjectAddress)).sum

/-- The mints with what was counted of each. -/
def subjectTokenDeltas : List (String × ℚ) :=
  ((reading.counted subjectAddress).map (·.2)).dedup.map fun mint =>
    (mint, reading.deltaOver subjectAddress (reading.counted subjectAddress) mint)

/-- The venue, by the first program that is one's. -/
def venue : Option String := reading.programIds.findSome? detectRouterFromProgramId

end Reading

/-! ## The activity -/

/-- An activity, the venue of a swap, and why something is no swap and no transfer. -/
structure Classified where
  kind : ActivityKind
  venue : Option String
  skipReason : Option String
  deriving DecidableEq

/-- Something else, and why. -/
def skipped (reason : String) : Classified := ⟨.other, none, some reason⟩

/-- The mint can be that of a swap. Source: `candidates` -/
def isCandidate (delta : String × ℚ) : Bool :=
  delta.1 != solMint && delta.1 != usdcMint && delta.1 != usdtMint

/-- Two changes, and the second is more than half of the first. Source: `classify.rs`, the test on
`magnitudes` -/
def isAmbiguous (candidates : List (String × ℚ)) : Bool :=
  match (candidates.map fun delta => |delta.2|).insertionSort (· ≥ ·) with
  | first :: second :: _ => decide (first / 2 < second)
  | _ => false

/-- The last of the largest changes. Source: `max_by` in `classify_swap` -/
def largest (first : String × ℚ) (others : List (String × ℚ)) : String × ℚ :=
  others.foldl (fun best delta => if |best.2| ≤ |delta.2| then delta else best) first

/-- The swap of a mint. Source: `classify.rs`, the end of `classify_swap` -/
def swapOf (lamports : ℤ) (delta : String × ℚ) (venue : Option String) : Classified :=
  let solAmount := lamportsToSol lamports.natAbs
  let tokenAmount := |delta.2|
  ⟨.swap delta.1 (if 0 < delta.2 then .buy else .sell) solAmount tokenAmount
    (if epsilon < tokenAmount then some (solAmount / tokenAmount) else none), venue, none⟩

def classifySwap (lamports : ℤ) (tokenDeltas : List (String × ℚ)) (venue : Option String) :
    Classified :=
  if |lamports| ≤ feeNoiseLamports then skipped "no SOL-quoted leg for this subject"
  else
    match tokenDeltas.filter isCandidate with
    | [] => skipped "no non-stable token leg found"
    | first :: others =>
      if isAmbiguous (first :: others) then
        skipped "ambiguous multi-hop: no single dominant mint"
      else swapOf lamports (largest first others) venue

def classifyTransfer (lamports : ℤ) (tokenDeltas : List (String × ℚ)) : Classified :=
  match tokenDeltas with
  | [(mint, delta)] =>
    ⟨.transfer mint |delta| (if 0 < delta then .incoming else .outgoing), none, none⟩
  | [] =>
    if feeNoiseLamports < |lamports| then
      ⟨.transfer solMint (lamportsToSol lamports.natAbs)
        (if 0 < lamports then .incoming else .outgoing), none, none⟩
    else skipped "no DEX program and no single clear transfer leg"
  | _ => skipped "no DEX program and no single clear transfer leg"

/-- The activity, with the changes of the tokens as the map hands them out. Source:
`classify_transaction_activity` -/
def classifyTransactionActivity (subjectAddress : String) (transaction : ActivityTransaction)
    (listed : List (String × ℚ)) : Option Classified :=
  if !transaction.success then none
  else
    match transaction.reading subjectAddress with
    | .error reason => some (skipped reason)
    | .ok reading =>
      some (if reading.venue.isSome then
          classifySwap reading.swapLamports listed reading.venue
        else classifyTransfer reading.swapLamports listed)

/-! ## What the wallet did -/

/-- One way or the other. -/
def SwapSide.sign : SwapSide → ℚ
  | .buy => 1
  | .sell => -1

namespace Reading

variable (reading : Reading) (subjectAddress : String)

/-- What the wallet's accounts gained of a mint. -/
def netChange (mint : String) : ℚ :=
  reading.deltaOver subjectAddress (reading.accounts subjectAddress) mint

/-- What the accounts gained of a mint whose change is too small to be counted. -/
def uncountedChange (mint : String) : ℚ :=
  reading.deltaOver subjectAddress
    ((reading.accounts subjectAddress).filter fun account =>
      !decide (epsilon < |reading.accountDelta subjectAddress account|)) mint

/-- The SOL that crossed the boundary of the wallet and its token accounts, without the fee. -/
def solMoved : ℤ := boundaryLamports subjectAddress reading.metadata.plain reading.subjectIndex

/-- The lamports its token accounts gained: rent, and wrapped SOL. -/
def ownLamports : ℤ :=
  lamportsOf reading.metadata.plain
    (ownAccounts subjectAddress reading.metadata.plain reading.subjectIndex)

/-- What a swap has to say: the wallet gained the tokens it bought or lost those it sold, and its
SOL moved the other way. -/
structure Moved (mint : String) (side : SwapSide) (solAmount tokenAmount : ℚ) : Prop where
  tokens : 0 < tokenAmount ∧ reading.netChange subjectAddress mint = side.sign * tokenAmount
  sol : 0 < solAmount ∧ (reading.solMoved subjectAddress : ℚ) / 10 ^ 9 = -(side.sign * solAmount)

end Reading

/-- The changes as the map may hand them out. -/
def IsListing (subjectAddress : String) (transaction : ActivityTransaction)
    (listed : List (String × ℚ)) : Prop :=
  ∀ reading, transaction.reading subjectAddress = .ok reading →
    listed.Perm (reading.subjectTokenDeltas subjectAddress)

/-- A swap says what the wallet did, and the activity is the same in whatever order the changes are
gone through. -/
structure Faithful (subjectAddress : String) (transaction : ActivityTransaction)
    (listed : List (String × ℚ)) : Prop where
  swap : ∀ reading mint side solAmount tokenAmount priceSol venue,
    transaction.reading subjectAddress = .ok reading →
    classifyTransactionActivity subjectAddress transaction listed =
      some ⟨.swap mint side solAmount tokenAmount priceSol, venue, none⟩ →
    reading.Moved subjectAddress mint side solAmount tokenAmount
  order : ∀ other, IsListing subjectAddress transaction other →
    classifyTransactionActivity subjectAddress transaction other =
      classifyTransactionActivity subjectAddress transaction listed

/-- A change of a token that is at least twice that of every other. -/
structure Dominates (deltas : List (String × ℚ)) (delta : String × ℚ) : Prop where
  mem : delta ∈ deltas
  isCandidate : isCandidate delta = true
  half : ∀ other ∈ deltas, Wallets.isCandidate other = true → other.1 ≠ delta.1 →
    |other.2| ≤ |delta.2| / 2

/-- A change of a token and one of SOL, the two ways they can stand to the lamports of the token
accounts: these did not change, and the two went opposite ways; or they took twice the SOL, and the
two went the same way. -/
def Offsets (lamports ownLamports : ℤ) (delta : ℚ) : Prop :=
  (ownLamports = 0 ∧ (lamports < 0 ∧ 0 < delta ∨ 0 < lamports ∧ delta < 0)) ∨
    (ownLamports = -2 * lamports ∧ (lamports < 0 ∧ delta < 0 ∨ 0 < lamports ∧ 0 < delta))

/-- In a transaction with a venue and a leg of SOL, a change that dominates is none of nothing,
leaves no change uncounted, and is offset by the SOL. -/
def Reading.Straight (reading : Reading) (subjectAddress : String) : Prop :=
  reading.venue.isSome = true → feeNoiseLamports < |reading.swapLamports| →
    ∀ delta, Dominates (reading.subjectTokenDeltas subjectAddress) delta →
      delta.2 ≠ 0 ∧ reading.uncountedChange subjectAddress delta.1 = 0 ∧
        Offsets reading.swapLamports (reading.ownLamports subjectAddress) delta.2

/-! ## SOL, exactly -/

section Lamports

variable {reading : Reading}

lemma getD_lt (balances : List ℕ) (h : ∀ lamports ∈ balances, lamports < 2 ^ 62) (index : ℕ) :
    balances.getD index 0 < 2 ^ 62 := by
  rw [getD_eq_getElem?_getD]
  cases hget : balances[index]? with
  | none => simp
  | some lamports => exact h lamports (mem_of_getElem? hget)

lemma bmod_of_range {n : ℤ} (hlow : -(2 ^ 63) ≤ n) (hhigh : n < 2 ^ 63) :
    Int.bmod n (2 ^ 64) = n := by
  apply Int.bmod_eq_of_le
  · simpa using hlow
  · simpa using hhigh

lemma Reading.swapLamports_eq (reading : Reading) :
    reading.swapLamports =
      lamportsDelta reading.metadata.plain reading.subjectIndex +
        feePaid reading.metadata.plain reading.subjectIndex := by
  have hpre : reading.metadata.preBalances.getD reading.subjectIndex 0 < 2 ^ 62 :=
    getD_lt _ (fun lamports h => reading.metadata.lamports_lt lamports
      (mem_cons_of_mem _ (mem_append_left _ h))) _
  have hpost : reading.metadata.postBalances.getD reading.subjectIndex 0 < 2 ^ 62 :=
    getD_lt _ (fun lamports h => reading.metadata.lamports_lt lamports
      (mem_cons_of_mem _ (mem_append_right _ h))) _
  have hfee : reading.metadata.fee < 2 ^ 62 := by
    apply reading.metadata.lamports_lt
    exact mem_cons_self
  have hsol : reading.subjectSolDeltaLamports =
      lamportsDelta reading.metadata.plain reading.subjectIndex := by
    have hexact : ∀ lamports < 2 ^ 62, asI64 lamports = lamports := fun lamports hlt =>
      bmod_of_range (by omega) (by omega)
    unfold subjectSolDeltaLamports wrappingSubI64
    rw [hexact _ hpre, hexact _ hpost]
    exact bmod_of_range (by omega) (by omega)
  unfold swapLamports feePaid
  rw [hsol]
  split
  · simp only [lamportsDelta, UiMetadata.plain, saturatingAddI64] at *
    omega
  · rw [add_zero]

lemma Reading.solMoved_eq (reading : Reading) (subjectAddress : String) :
    reading.solMoved subjectAddress = reading.swapLamports + reading.ownLamports subjectAddress := by
  rw [reading.swapLamports_eq, solMoved, boundaryLamports, ownLamports]
  ring

end Lamports

/-! ## The largest change -/

section Largest

variable {first delta : String × ℚ} {others candidates : List (String × ℚ)}

lemma largest_spec (first : String × ℚ) (others : List (String × ℚ)) :
    largest first others ∈ first :: others ∧
      ∀ other ∈ first :: others, |other.2| ≤ |(largest first others).2| := by
  induction others generalizing first with
  | nil => simp [largest]
  | cons next others ih =>
    have hcons : largest first (next :: others) =
        largest (if |first.2| ≤ |next.2| then next else first) others := rfl
    rw [hcons]
    split
    case isTrue hle =>
      obtain ⟨hmem, hmax⟩ := ih next
      refine ⟨mem_cons_of_mem _ hmem, fun other hother => ?_⟩
      rcases mem_cons.mp hother with rfl | hother
      · exact hle.trans (hmax next mem_cons_self)
      · exact hmax other hother
    case isFalse hlt =>
      obtain ⟨hmem, hmax⟩ := ih first
      refine ⟨?_, fun other hother => ?_⟩
      · rcases mem_cons.mp hmem with heq | hmem
        · rw [heq]
          exact mem_cons_self
        · exact mem_cons_of_mem _ (mem_cons_of_mem _ hmem)
      · rcases mem_cons.mp hother with rfl | hother
        · exact hmax other mem_cons_self
        · rcases mem_cons.mp hother with rfl | hother
          · exact (not_le.mp hlt).le.trans (hmax first mem_cons_self)
          · exact hmax other (mem_cons_of_mem _ hother)

lemma isAmbiguous_perm {l l' : List (String × ℚ)} (h : l.Perm l') :
    isAmbiguous l = isAmbiguous l' := by
  have hsorted : (l.map fun delta => |delta.2|).insertionSort (· ≥ ·) =
      (l'.map fun delta => |delta.2|).insertionSort (· ≥ ·) :=
    List.Perm.eq_of_sortedGE sortedGE_insertionSort sortedGE_insertionSort
      ((perm_insertionSort _ _).trans ((h.map _).trans (perm_insertionSort _ _).symm))
  simp only [isAmbiguous, hsorted]

lemma isAmbiguous_cons (hmax : ∀ other ∈ others, |other.2| ≤ |first.2|) :
    isAmbiguous (first :: others) = false ↔ ∀ other ∈ others, |other.2| ≤ |first.2| / 2 := by
  have hfront : ((first :: others).map fun delta => |delta.2|).insertionSort (· ≥ ·) =
      |first.2| :: (others.map fun delta => |delta.2|).insertionSort (· ≥ ·) := by
    rw [map_cons]
    apply insertionSort_cons_of_forall_rel
    intro magnitude hmagnitude
    obtain ⟨other, hother, rfl⟩ := mem_map.mp hmagnitude
    exact hmax other hother
  have hmem : ∀ magnitude, magnitude ∈ (others.map fun delta => |delta.2|).insertionSort (· ≥ ·) ↔
      ∃ other ∈ others, |other.2| = magnitude := by
    intro magnitude
    rw [mem_insertionSort, mem_map]
  have hsorted : ((others.map fun delta => |delta.2|).insertionSort (· ≥ ·)).Pairwise (· ≥ ·) :=
    pairwise_insertionSort _ _
  unfold isAmbiguous
  rw [hfront]
  cases hrest : (others.map fun delta => |delta.2|).insertionSort (· ≥ ·) with
  | nil =>
    have hnone : ∀ other ∈ others, |other.2| ≤ |first.2| / 2 := by
      intro other hother
      have := (hmem |other.2|).mpr ⟨other, hother, rfl⟩
      rw [hrest] at this
      cases this
    simpa using hnone
  | cons second rest =>
    rw [hrest] at hmem hsorted
    simp only [decide_eq_false_iff_not, not_lt]
    constructor
    · intro hhalf other hother
      rcases mem_cons.mp ((hmem _).mpr ⟨other, hother, rfl⟩) with heq | hlater
      · exact heq.le.trans hhalf
      · exact ((pairwise_cons.mp hsorted).1 _ hlater).le.trans hhalf
    · intro hall
      obtain ⟨other, hother, rfl⟩ := (hmem second).mp mem_cons_self
      exact hall other hother

end Largest

/-! ## The swap -/

section Swap

variable {lamports : ℤ} {deltas : List (String × ℚ)}

/-- Changes of different mints. -/
def OnePerMint (deltas : List (String × ℚ)) : Prop := (deltas.map (·.1)).Nodup

lemma classifySwap_spec (hdeltas : OnePerMint deltas) (hsol : feeNoiseLamports < |lamports|)
    (venue : Option String) :
    (∃ delta, Dominates deltas delta ∧ classifySwap lamports deltas venue =
      swapOf lamports delta venue) ∨
      classifySwap lamports deltas venue = skipped
          (if (deltas.filter isCandidate).isEmpty then "no non-stable token leg found"
            else "ambiguous multi-hop: no single dominant mint") ∧
        ∀ delta, ¬ Dominates deltas delta := by
  unfold classifySwap
  rw [if_neg (not_le.mpr hsol)]
  cases hcandidates : deltas.filter isCandidate with
  | nil =>
    refine Or.inr ⟨rfl, fun delta hdelta => ?_⟩
    have hmem : delta ∈ deltas.filter isCandidate :=
      mem_filter.mpr ⟨hdelta.mem, hdelta.isCandidate⟩
    rw [hcandidates] at hmem
    cases hmem
  | cons first others =>
    dsimp only
    obtain ⟨hlargest, hmax⟩ := largest_spec first others
    -- the candidates with the largest in front
    obtain ⟨rest, hperm⟩ : ∃ rest, (first :: others).Perm (largest first others :: rest) :=
      ⟨_, perm_cons_erase hlargest⟩
    have hrest : ∀ other ∈ rest, |other.2| ≤ |(largest first others).2| := fun other hother =>
      hmax other (hperm.mem_iff.mpr (mem_cons_of_mem _ hother))
    have hnodup : ((largest first others :: rest).map (·.1)).Nodup := by
      rw [← (hperm.map _).nodup_iff, ← hcandidates]
      exact hdeltas.sublist (filter_sublist.map _)
    have hmem : ∀ other, other ∈ deltas ∧ isCandidate other = true ↔
        other = largest first others ∨ other ∈ rest := by
      intro other
      rw [← mem_filter, hcandidates, hperm.mem_iff, mem_cons]
    have hambiguous := isAmbiguous_cons hrest
    rw [← isAmbiguous_perm hperm] at hambiguous
    cases hcase : isAmbiguous (first :: others) with
    | false =>
      refine Or.inl ⟨largest first others, ?_, rfl⟩
      obtain ⟨hin, hcandidate⟩ := (hmem _).mpr (Or.inl rfl)
      refine ⟨hin, hcandidate, fun other hother hother' hne => ?_⟩
      rcases (hmem other).mp ⟨hother, hother'⟩ with rfl | hlater
      · exact absurd rfl hne
      · exact hambiguous.mp hcase other hlater
    | true =>
      refine Or.inr ⟨rfl, fun delta hdelta => ?_⟩
      rw [← Bool.not_eq_false, hambiguous] at hcase
      refine hcase fun other hother => ?_
      obtain ⟨hin, hcandidate⟩ := (hmem other).mpr (Or.inr hother)
      have hfresh : other.1 ≠ (largest first others).1 := fun heq =>
        (nodup_cons.mp hnodup).1 (mem_map.mpr ⟨other, hother, heq⟩)
      rcases (hmem delta).mp ⟨hdelta.mem, hdelta.isCandidate⟩ with rfl | hlater
      · exact hdelta.half other hin hcandidate hfresh
      · -- what dominates is as large as the largest, so both are nothing
        obtain ⟨hin', hcandidate'⟩ := (hmem (largest first others)).mpr (Or.inl rfl)
        have hne : (largest first others).1 ≠ delta.1 := fun heq =>
          (nodup_cons.mp hnodup).1 (mem_map.mpr ⟨delta, hlater, heq.symm⟩)
        have hhalf := hdelta.half _ hin' hcandidate' hne
        have hle := hrest delta hlater
        have hother := hrest other hother
        have := abs_nonneg other.2
        have := abs_nonneg delta.2
        linarith

variable {delta : String × ℚ}

lemma Dominates.unique {other : String × ℚ} (hdeltas : OnePerMint deltas)
    (h : Dominates deltas delta) (h' : Dominates deltas other) (hne : delta.2 ≠ 0) :
    other = delta := by
  by_cases hmint : other.1 = delta.1
  · exact inj_on_of_nodup_map hdeltas h'.mem h.mem hmint
  · have hhalf := h.half other h'.mem h'.isCandidate hmint
    have hhalf' := h'.half delta h.mem h.isCandidate (Ne.symm hmint)
    have := abs_pos.mpr hne
    linarith

variable {deltas' : List (String × ℚ)}

lemma Dominates.perm (hperm : deltas.Perm deltas') (h : Dominates deltas delta) :
    Dominates deltas' delta :=
  ⟨hperm.mem_iff.mp h.mem, h.isCandidate, fun other hother => h.half other (hperm.mem_iff.mpr hother)⟩

lemma classifyTransfer_perm (hperm : deltas.Perm deltas') :
    classifyTransfer lamports deltas = classifyTransfer lamports deltas' := by
  match deltas, deltas', hperm with
  | [], _, hperm => rw [nil_perm.mp hperm]
  | [delta], _, hperm => rw [singleton_perm.mp hperm]
  | first :: second :: rest, [], hperm => simp at hperm
  | first :: second :: rest, [delta], hperm => simp at hperm
  | first :: second :: rest, first' :: second' :: rest', hperm => rfl

end Swap

/-! ## What a swap says -/

section Changes

variable {reading : Reading} {subjectAddress : String}

lemma onePerMint_subjectTokenDeltas : OnePerMint (reading.subjectTokenDeltas subjectAddress) := by
  unfold OnePerMint Reading.subjectTokenDeltas
  rw [map_map]
  simpa [Function.comp_def] using nodup_dedup ((reading.counted subjectAddress).map (·.2))

variable {delta : String × ℚ}

lemma delta_of_mem (h : delta ∈ reading.subjectTokenDeltas subjectAddress) :
    delta.2 = reading.deltaOver subjectAddress (reading.counted subjectAddress) delta.1 := by
  obtain ⟨mint, -, rfl⟩ := mem_map.mp h
  rfl

lemma deltaOver_filter (p : ℕ × String → Bool) (accounts : List (ℕ × String)) (mint : String) :
    reading.deltaOver subjectAddress accounts mint =
      reading.deltaOver subjectAddress (accounts.filter p) mint +
        reading.deltaOver subjectAddress (accounts.filter fun account => !p account) mint := by
  have hswap : ∀ q : ℕ × String → Bool, (accounts.filter q).filter (·.2 == mint) =
      (accounts.filter (·.2 == mint)).filter q := by
    intro q
    rw [filter_filter, filter_filter]
    congr 1
    funext account
    exact Bool.and_comm _ _
  have hsplit := sum_map_filter_add_sum_map_filter_not (fun account => p account = true)
    (reading.accountDelta subjectAddress) (accounts.filter (·.2 == mint))
  unfold Reading.deltaOver
  rw [hswap, hswap, ← hsplit]
  simp

lemma netChange_eq (mint : String) :
    reading.netChange subjectAddress mint =
      reading.deltaOver subjectAddress (reading.counted subjectAddress) mint +
        reading.uncountedChange subjectAddress mint :=
  deltaOver_filter _ _ _

lemma moved_tokens (h : delta ∈ reading.subjectTokenDeltas subjectAddress) :
    (0 < |delta.2| ∧ reading.netChange subjectAddress delta.1 =
        (if 0 < delta.2 then SwapSide.buy else SwapSide.sell).sign * |delta.2|) ↔
      delta.2 ≠ 0 ∧ reading.uncountedChange subjectAddress delta.1 = 0 := by
  have hsigned : (if 0 < delta.2 then SwapSide.buy else SwapSide.sell).sign * |delta.2| = delta.2 := by
    split
    case isTrue hpos => rw [abs_of_pos hpos, SwapSide.sign, one_mul]
    case isFalse hneg => rw [abs_of_nonpos (not_lt.mp hneg), SwapSide.sign, neg_mul_neg, one_mul]
  rw [abs_pos, hsigned, netChange_eq, ← delta_of_mem h, add_eq_left]

lemma sol_eq_iff (side : SwapSide) (moved lamports : ℤ) :
    (moved : ℚ) / 10 ^ 9 = -(side.sign * lamportsToSol lamports.natAbs) ↔
      moved = match side with
        | .buy => -(lamports.natAbs : ℤ)
        | .sell => lamports.natAbs := by
  cases side with
  | buy =>
    rw [SwapSide.sign, one_mul, lamportsToSol, ← neg_div, div_left_inj' (by norm_num)]
    norm_cast
  | sell =>
    rw [SwapSide.sign, neg_mul, one_mul, neg_neg, lamportsToSol, div_left_inj' (by norm_num),
      ← Int.cast_natCast, Int.cast_inj]

lemma moved_sol {delta : ℚ} (hdelta : delta ≠ 0) (hsol : feeNoiseLamports < |reading.swapLamports|) :
    (0 < lamportsToSol reading.swapLamports.natAbs ∧
        (reading.solMoved subjectAddress : ℚ) / 10 ^ 9 =
          -((if 0 < delta then SwapSide.buy else SwapSide.sell).sign *
            lamportsToSol reading.swapLamports.natAbs)) ↔
      Offsets reading.swapLamports (reading.ownLamports subjectAddress) delta := by
  rw [Int.abs_eq_natAbs, feeNoiseLamports] at hsol
  have hleg : 0 < lamportsToSol reading.swapLamports.natAbs := by
    apply div_pos
    · exact Nat.cast_pos.mpr (by omega)
    · norm_num
  rw [and_iff_right hleg, sol_eq_iff, reading.solMoved_eq, Offsets]
  rcases lt_or_gt_of_ne hdelta with hneg | hpos
  · simp only [hneg, not_lt.mpr hneg.le, if_false, and_true, and_false, false_or, or_false]
    omega
  · simp only [hpos, not_lt.mpr hpos.le, if_true, and_true, and_false, false_or, or_false]
    omega

lemma moved_iff (h : delta ∈ reading.subjectTokenDeltas subjectAddress)
    (hsol : feeNoiseLamports < |reading.swapLamports|) :
    reading.Moved subjectAddress delta.1 (if 0 < delta.2 then .buy else .sell)
        (lamportsToSol reading.swapLamports.natAbs) |delta.2| ↔
      delta.2 ≠ 0 ∧ reading.uncountedChange subjectAddress delta.1 = 0 ∧
        Offsets reading.swapLamports (reading.ownLamports subjectAddress) delta.2 := by
  constructor
  · rintro ⟨htokens, hlamports⟩
    obtain ⟨hne, hcounted⟩ := (moved_tokens h).mp htokens
    exact ⟨hne, hcounted, (moved_sol hne hsol).mp hlamports⟩
  · rintro ⟨hne, hcounted, hoffsets⟩
    exact ⟨(moved_tokens h).mpr ⟨hne, hcounted⟩, (moved_sol hne hsol).mpr hoffsets⟩

end Changes

/-! ## Faithful -/

section Faithful

variable {reading : Reading} {subjectAddress : String} {transaction : ActivityTransaction}
  {listed other : List (String × ℚ)}

lemma classify_of_reading (hsuccess : transaction.success = true)
    (hreading : transaction.reading subjectAddress = .ok reading) :
    classifyTransactionActivity subjectAddress transaction listed =
      some (if reading.venue.isSome then classifySwap reading.swapLamports listed reading.venue
        else classifyTransfer reading.swapLamports listed) := by
  simp [classifyTransactionActivity, hsuccess, hreading]

lemma faithful_of_no_reading
    (h : ∀ reading, transaction.success = true → transaction.reading subjectAddress ≠ .ok reading) :
    Faithful subjectAddress transaction listed := by
  cases hsuccess : transaction.success with
  | false =>
    have hnone : ∀ listed, classifyTransactionActivity subjectAddress transaction listed = none := by
      intro listed
      simp [classifyTransactionActivity, hsuccess]
    constructor
    · intro reading mint side solAmount tokenAmount priceSol venue _ hswap
      rw [hnone] at hswap
      cases hswap
    · intro other _
      rw [hnone, hnone]
  | true =>
    cases hreading : transaction.reading subjectAddress with
    | ok reading => exact absurd hreading (h reading hsuccess)
    | error reason =>
      constructor
      · intro reading mint side solAmount tokenAmount priceSol venue hok _
        rw [hreading] at hok
        cases hok
      · intro other _
        simp [classifyTransactionActivity, hsuccess, hreading]

lemma swap_made_out (hlisted : OnePerMint listed) {classified : Classified} {mint : String}
    {side : SwapSide} {solAmount tokenAmount : ℚ} {priceSol : Option ℚ}
    (h : (if reading.venue.isSome then classifySwap reading.swapLamports listed reading.venue
        else classifyTransfer reading.swapLamports listed) = classified)
    (hkind : classified.kind = .swap mint side solAmount tokenAmount priceSol) :
    reading.venue.isSome = true ∧ feeNoiseLamports < |reading.swapLamports| ∧
      ∃ delta, Dominates listed delta ∧
        classified = swapOf reading.swapLamports delta reading.venue := by
  split at h
  case isTrue hvenue =>
    refine ⟨hvenue, ?_⟩
    by_cases hsol : feeNoiseLamports < |reading.swapLamports|
    · refine ⟨hsol, ?_⟩
      rcases classifySwap_spec hlisted hsol reading.venue with
        ⟨delta, hdelta, heq⟩ | ⟨heq, -⟩
      · exact ⟨delta, hdelta, h.symm.trans heq⟩
      · rw [← h, heq] at hkind
        cases hkind
    · rw [classifySwap, if_pos (not_lt.mp hsol)] at h
      rw [← h] at hkind
      cases hkind
  case isFalse =>
    rw [← h] at hkind
    unfold classifyTransfer at hkind
    split at hkind
    · cases hkind
    · split at hkind <;> cases hkind
    · cases hkind

lemma classifySwap_perm {lamports : ℤ} {venue : Option String} (hlisted : OnePerMint listed)
    (hperm : other.Perm listed) (halone : feeNoiseLamports < |lamports| →
      ∀ delta, Dominates listed delta → delta.2 ≠ 0) :
    classifySwap lamports other venue = classifySwap lamports listed venue := by
  by_cases hsol : feeNoiseLamports < |lamports|
  · have hother : OnePerMint other := (hperm.map _).nodup_iff.mpr hlisted
    rcases classifySwap_spec hlisted hsol venue with ⟨delta, hdelta, heq⟩ | ⟨heq, hnone⟩
    · rcases classifySwap_spec hother hsol venue with ⟨delta', hdelta', heq'⟩ | ⟨-, hnone'⟩
      · rw [heq, heq', hdelta.unique hlisted (hdelta'.perm hperm) (halone hsol delta hdelta)]
      · exact absurd (hdelta.perm hperm.symm) (hnone' delta)
    · rcases classifySwap_spec hother hsol venue with ⟨delta', hdelta', -⟩ | ⟨heq', -⟩
      · exact absurd (hdelta'.perm hperm) (hnone delta')
      · have hempty : (other.filter isCandidate).isEmpty = (listed.filter isCandidate).isEmpty := by
          rw [Bool.eq_iff_iff, List.isEmpty_iff, List.isEmpty_iff]
          constructor
          · intro hnil
            have := hperm.filter isCandidate
            rwa [hnil, nil_perm] at this
          · intro hnil
            have := hperm.filter isCandidate
            rwa [hnil, perm_nil] at this
        rw [heq, heq', hempty]
  · unfold classifySwap
    rw [if_pos (not_lt.mp hsol), if_pos (not_lt.mp hsol)]

section

variable (hlisted : IsListing subjectAddress transaction listed)
include hlisted

lemma onePerMint_of_listing (hreading : transaction.reading subjectAddress = .ok reading) :
    OnePerMint listed :=
  ((hlisted reading hreading).map _).nodup_iff.mpr onePerMint_subjectTokenDeltas

lemma faithful_of_straight (hsuccess : transaction.success = true)
    (hreading : transaction.reading subjectAddress = .ok reading)
    (hstraight : reading.Straight subjectAddress) : Faithful subjectAddress transaction listed := by
  have hperm := hlisted reading hreading
  have hone := onePerMint_of_listing hlisted hreading
  constructor
  · intro reading' mint side solAmount tokenAmount priceSol venue hreading' hswap
    obtain rfl : reading = reading' := Except.ok.inj (hreading.symm.trans hreading')
    rw [classify_of_reading hsuccess hreading, Option.some_inj] at hswap
    obtain ⟨hvenue, hsol, delta, hdelta, hmade⟩ := swap_made_out hone hswap rfl
    have hmoved := (moved_iff (hperm.mem_iff.mp hdelta.mem) hsol).mpr
      (hstraight hvenue hsol delta (hdelta.perm hperm))
    simp only [swapOf, Classified.mk.injEq, ActivityKind.swap.injEq] at hmade
    obtain ⟨⟨rfl, rfl, rfl, rfl, -⟩, -⟩ := hmade
    exact hmoved
  · intro other hother
    have hsame : other.Perm listed := (hother reading hreading).trans hperm.symm
    rw [classify_of_reading hsuccess hreading, classify_of_reading hsuccess hreading]
    split
    case isTrue hvenue =>
      rw [classifySwap_perm hone hsame]
      intro hsol delta hdelta
      exact (hstraight hvenue hsol delta (hdelta.perm hperm)).1
    case isFalse => rw [classifyTransfer_perm hsame]

lemma straight_of_faithful (hsuccess : transaction.success = true)
    (hreading : transaction.reading subjectAddress = .ok reading)
    (h : Faithful subjectAddress transaction listed) : reading.Straight subjectAddress := by
  intro hvenue hsol delta hdelta
  have hperm := hlisted reading hreading
  have hone := onePerMint_of_listing hlisted hreading
  have hin : Dominates listed delta := hdelta.perm hperm.symm
  rcases classifySwap_spec hone hsol reading.venue with ⟨top, htop, hmade⟩ | ⟨-, hnone⟩
  · have hswap : classifyTransactionActivity subjectAddress transaction listed =
        some (swapOf reading.swapLamports top reading.venue) := by
      rw [classify_of_reading hsuccess hreading, if_pos hvenue, hmade]
    have hmoved := (moved_iff (hperm.mem_iff.mp htop.mem) hsol).mp
      (h.swap reading _ _ _ _ _ _ hreading hswap)
    -- the change that dominates is that of the swap
    rw [htop.unique hone hin hmoved.1]
    exact hmoved
  · exact absurd hin (hnone delta)

end

end Faithful

/-- **Faithful** exactly when the transaction, if it succeeded and can be read, is read straight. -/
theorem faithful_iff_straight (subjectAddress : String) (transaction : ActivityTransaction)
    (listed : List (String × ℚ)) (hlisted : IsListing subjectAddress transaction listed) :
    Faithful subjectAddress transaction listed ↔
      ∀ reading, transaction.success = true →
        transaction.reading subjectAddress = .ok reading → reading.Straight subjectAddress := by
  constructor
  · intro h reading hsuccess hreading
    exact straight_of_faithful hlisted hsuccess hreading h
  · intro h
    by_cases hread : ∃ reading, transaction.success = true ∧
        transaction.reading subjectAddress = .ok reading
    · obtain ⟨reading, hsuccess, hreading⟩ := hread
      exact faithful_of_straight hlisted hsuccess hreading (h reading hsuccess hreading)
    · refine faithful_of_no_reading fun reading hsuccess hreading => ?_
      exact hread ⟨reading, hsuccess, hreading⟩

/-! ### A token is bought, and liquidity is added -/

/-- The two accounts of a wallet and its program are a pool's. -/
def poolDetails (metadata : UiMetadata) : ActivityDetails where
  accountKeys := ["SUBJECT", "TOKEN-ACCOUNT"]
  programIds := ["CPMMoo8L3F4NbTegBCKVNunggL7H1ZpdTHKxQB5qKP1C"]
  metadata := some metadata

/-- One SOL is paid, and the tokens become so many of a hundred. -/
def poolMetadata (tokens : ℚ) : UiMetadata where
  preBalances := [10000000000, 2039280]
  postBalances := [8999995000, 2039280]
  preTokenBalances := some [⟨⟨1, "MINT", some "SUBJECT", ⟨"100000000", 6⟩⟩, some 100⟩]
  postTokenBalances := some [⟨⟨1, "MINT", some "SUBJECT", ⟨"50000000", 6⟩⟩, some tokens⟩]
  fee := 5000
  lamports_lt := by decide

/-- The transaction with the pool. -/
def poolTransaction (tokens : ℚ) : ActivityTransaction where
  success := true
  raw := some (some (poolDetails (poolMetadata tokens)))

lemma reading_pool (tokens : ℚ) : (poolTransaction tokens).reading "SUBJECT" =
    .ok ⟨["CPMMoo8L3F4NbTegBCKVNunggL7H1ZpdTHKxQB5qKP1C"], poolMetadata tokens, 0⟩ :=
  rfl

lemma isListing_pool (tokens : ℚ) (deltas : List (String × ℚ))
    (hdeltas : Reading.subjectTokenDeltas
      ⟨["CPMMoo8L3F4NbTegBCKVNunggL7H1ZpdTHKxQB5qKP1C"], poolMetadata tokens, 0⟩ "SUBJECT" = deltas) :
    IsListing "SUBJECT" (poolTransaction tokens) deltas := by
  intro reading hreading
  rw [reading_pool, Except.ok.injEq] at hreading
  rw [← hreading, hdeltas]

/-- Tokens for a SOL. -/
theorem faithful_iff_straight_buy :
    Faithful "SUBJECT" (poolTransaction 150) [("MINT", 50)] ↔
      ∀ reading, (poolTransaction 150).success = true →
        (poolTransaction 150).reading "SUBJECT" = .ok reading → reading.Straight "SUBJECT" :=
  faithful_iff_straight "SUBJECT" (poolTransaction 150) [("MINT", 50)]
    (isListing_pool 150 _ (by decide +kernel))

/-- Tokens and a SOL into a pool are called a sale. -/
theorem not_faithful_deposit :
    ¬ ∀ (subjectAddress : String) (transaction : ActivityTransaction) (listed : List (String × ℚ)),
      IsListing subjectAddress transaction listed → Faithful subjectAddress transaction listed := by
  intro h
  have hfaithful := h "SUBJECT" (poolTransaction 50) [("MINT", -50)]
    (isListing_pool 50 _ (by decide +kernel))
  have hsale : classifyTransactionActivity "SUBJECT" (poolTransaction 50) [("MINT", -50)] =
      some ⟨.swap "MINT" .sell 1 50 (some (1 / 50)), some "raydium", none⟩ := by
    decide +kernel
  have hmoved := (hfaithful.swap _ _ _ _ _ _ _ (reading_pool 50) hsale).sol.2
  have hpaid : Reading.solMoved
      ⟨["CPMMoo8L3F4NbTegBCKVNunggL7H1ZpdTHKxQB5qKP1C"], poolMetadata 50, 0⟩
        "SUBJECT" = -1000000000 := by
    decide +kernel
  rw [hpaid, SwapSide.sign] at hmoved
  norm_num at hmoved

end Dripline.Wallets
