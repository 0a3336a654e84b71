import Dripline.Positions.Durable
import Dripline.Positions.Pending
import Dripline.Positions.Queue
import Dripline.Swaps.Attempt

/-!
# What becomes of a swap that was sent

The four operations of `positions/operations/` from their swap on: each has steps of its own between
the signature and the verification item that tracks it.

* `tracked_iff` — the item that tracks the swap is enqueued exactly as long as nothing is in its
  way.

A source without a file is in `state_pending.rs`.
-/

namespace Dripline.Positions

open List

open Dripline.Swaps (SwapResult mentions unconfirmedSwapSignature)

/-! ## Adds that are pending -/

/-- Source: `positions/types.rs` -/
structure PendingDcaSwap where
  signature : String
  mint : String
  positionId : ℤ
  expiryHeight : Option ℕ
  createdAt : DateTime
  sizeSol : ℚ
  deriving DecidableEq

/-- The adds by signature, and what the metadata holds. Source: `PENDING_DCA_SWAPS` -/
structure PendingDcas where
  swaps : List PendingDcaSwap
  stored : List PendingDcaSwap

namespace PendingDcas

variable (pending : PendingDcas)

/-- The add of a signature is taken out. -/
def remove (signature : String) : PendingDcas :=
  { pending with swaps := pending.swaps.filter (·.signature != signature) }

/-- An add is put in, in place of the one its signature had. -/
def insert (entry : PendingDcaSwap) : PendingDcas :=
  { pending with swaps := (pending.remove entry.signature).swaps ++ [entry] }

variable (written : Except String Unit)

/-- Source: `persist_pending_dca_swaps` -/
def persist : PendingDcas × Except String Unit :=
  match written with
  | .ok _ => ({ pending with stored := pending.swaps }, .ok ())
  | .error detail => (pending, .error detail)

/-- Source: `register_pending_dca_swap` -/
def register (entry : PendingDcaSwap) :
    PendingDcas × Except String Unit :=
  match (pending.insert entry).persist written with
  | (pending, .ok _) => (pending, .ok ())
  | (pending, .error detail) => (pending.remove entry.signature, .error detail)

/-- Source: `clear_pending_dca_swap` -/
def clear (signature : String) :
    PendingDcas × Except String Unit :=
  match pending.swaps.find? (·.signature == signature) with
  | none => (pending, .ok ())
  | some entry =>
    match (pending.remove signature).persist written with
    | (pending, .ok _) => (pending, .ok ())
    | (pending, .error detail) => (pending.insert entry, .error detail)

/-- Source: `rehydrate_pending_dca_swaps` -/
def rehydrate : PendingDcas :=
  pending.stored.foldl insert { pending with swaps := [] }

end PendingDcas

/-! ## The swap -/

/-- The signature a swap came back with: of a clean fill, or of one that reached the chain and could
not be confirmed or measured. -/
def submittedSignature (reply : Except Swaps.Error SwapResult) : Option String :=
  match reply with
  | .ok result => some result.transactionSignature
  | .error error => unconfirmedSwapSignature error

/-- A rung of the slippage ladder: whether it was quoted, what the swap came back with and the text
of its error, and the same without the bonding curve. -/
structure Rung where
  quoted : Bool
  reply : Except Swaps.Error SwapResult
  message : String
  quotedAgain : Bool
  replyAgain : Except Swaps.Error SwapResult

namespace Rung

variable (rung : Rung)

/-- The error is that of a bonding curve that has graduated. Source: `operations/close.rs` and
`operations/partial_close.rs`, the test for `0x1787` and `6023` -/
def isBondingCurveError : Bool :=
  mentions rung.message "0x1787" || mentions rung.message "6023"

/-- What the swaps of the rung came back with. Source: `operations/close.rs` and
`operations/partial_close.rs`, the body of the ladder -/
def replies : List (Except Swaps.Error SwapResult) :=
  if !rung.quoted then []
  else if (submittedSignature rung.reply).isSome then [rung.reply]
  else if rung.isBondingCurveError && rung.quotedAgain then [rung.reply, rung.replyAgain]
  else [rung.reply]

/-- The signature the rung ends the ladder with. Source: `operations/close.rs` and
`operations/partial_close.rs`, `swap_result` and `submitted_signature` -/
def signature : Option String :=
  if !rung.quoted then none
  else
    match submittedSignature rung.reply with
    | some signature => some signature
    | none =>
      if rung.isBondingCurveError && rung.quotedAgain then submittedSignature rung.replyAgain
      else none

end Rung

/-- Rung after rung, up to the first that was sent. Source: `operations/close.rs` and
`operations/partial_close.rs`, the ladder -/
def climb : List Rung → List (Except Swaps.Error SwapResult) × Option String
  | [] => ([], none)
  | rung :: rungs =>
    match rung.signature with
    | some signature => (rung.replies, some signature)
    | none => (rung.replies ++ (climb rungs).1, (climb rungs).2)

variable {reply : Except Swaps.Error SwapResult}

lemma Rung.signature_of_mem_replies {rung : Rung} {signature : String}
    (hreply : reply ∈ rung.replies) (hsubmitted : submittedSignature reply = some signature) :
    rung.signature = some signature := by
  unfold Rung.replies at hreply
  unfold Rung.signature
  cases hquoted : rung.quoted with
  | false => simp [hquoted] at hreply
  | true =>
    simp only [hquoted, Bool.not_true, Bool.false_eq_true, if_false] at hreply ⊢
    cases hfirst : submittedSignature rung.reply with
    | some first =>
      simp only [hfirst, Option.isSome_some, if_true, mem_singleton] at hreply
      subst hreply
      exact hfirst.symm.trans hsubmitted
    | none =>
      simp only [hfirst, Option.isSome_none, Bool.false_eq_true, if_false] at hreply ⊢
      -- the first reply has no signature, so it is the second
      split at hreply
      case isTrue hagain =>
        rw [if_pos hagain]
        rcases mem_cons.mp hreply with rfl | hreply
        · rw [hfirst] at hsubmitted
          cases hsubmitted
        · rwa [mem_singleton.mp hreply] at hsubmitted
      case isFalse hagain =>
        rw [mem_singleton.mp hreply, hfirst] at hsubmitted
        cases hsubmitted

lemma climb_signature {rungs : List Rung} {signature : String} (hreply : reply ∈ (climb rungs).1)
    (hsubmitted : submittedSignature reply = some signature) :
    (climb rungs).2 = some signature := by
  induction rungs with
  | nil => cases hreply
  | cons rung rungs ih =>
    unfold climb at hreply ⊢
    cases hrung : rung.signature with
    | some first =>
      rw [hrung] at hreply
      exact hrung.symm.trans (Rung.signature_of_mem_replies hreply hsubmitted)
    | none =>
      rw [hrung] at hreply
      rcases mem_append.mp hreply with hreply | hreply
      · rw [Rung.signature_of_mem_replies hreply hsubmitted] at hrung
        cases hrung
      · exact ih hreply

/-! ## The operations -/

/-- The positions in memory and in the database, the partial exits and the adds in flight, and the
queue. -/
structure Trades where
  durable : Durable
  exits : PendingExits
  dcas : PendingDcas
  queue : VerificationQueue

/-- What an operation is answered after its swap: the attempts at saving a position, the block
height, the writes of the metadata, the price, and the clock. -/
structure Aftermath where
  save : ℕ → Except String ℤ
  height : Option ℕ
  metadataWrite : Except String Unit
  rollbackWrite : Except String Unit
  price : Option ℚ
  answers : Answers
  now : DateTime

/-- Source: `positions/error.rs`, the errors the operations end in after their swap; a panic is one
of them. -/
inductive OperationError
  | swapFailed (mint : String)
  | metadata (detail : String)
  | invalidPrice (mint : String) (price : ℚ)
  | transitionFailed (transition mint : String) (error : ApplyError)
  | fatal (message : String)

/-- Source: `operations/mod.rs` -/
def solanaBlockhashValiditySlots : ℕ := 150

/-- Source: `operations/mod.rs` -/
def positionSaveMaxRetries : ℕ := 5

/-- The last height a transaction sent at this one can land at, as far as the operations know. -/
def expiryHeightAt (height : ℕ) : ℕ := wrappingAdd64 height solanaBlockhashValiditySlots

/-- Attempts at saving a position, up to the last one, which is fatal. Source: `operations/mod.rs`,
`persist_position_with_retry` -/
def persistPositionWithRetry (mint : String) (save : ℕ → Except String ℤ) :
    ℕ → Except OperationError ℤ
  | 0 => .error (.fatal
      ("Critical: failed to persist position for mint " ++ mint ++ " after " ++
        toString positionSaveMaxRetries ++ " attempts. Manual intervention required."))
  | left + 1 =>
    match save (positionSaveMaxRetries - left) with
    | .ok id => .ok id
    | .error _ => persistPositionWithRetry mint save left

/-- One of the operations, with what it knows when it swaps and what its swaps come back with. A
close is of the position that was open when it began, if there was one. -/
inductive Operation
  | openPosition (mint symbol name : String) (entryPrice tradeSizeSol : ℚ)
      (origin : PositionOrigin) (management : PositionManagement)
      (reply : Except Swaps.Error SwapResult)
  | addToPosition (mint : String) (positionId : ℤ) (dcaAmountSol : ℚ)
      (reply : Except Swaps.Error SwapResult)
  | partialClosePosition (mint : String) (positionId : ℤ) (exitAmount : ℕ)
      (exitPercentage marketPrice : ℚ) (rungs : List Rung)
  | closePositionDirect (mint : String) (position : Option ℤ) (exitPrice : ℚ) (exitReason : String)
      (rungs : List Rung)

namespace Trades

variable (trades : Trades) (aftermath : Aftermath)

/-- Source: `queue.rs`, `enqueue_verification` -/
def enqueue (item : VerificationItem) : Trades :=
  { trades with queue := trades.queue.enqueue item }

/-- A new row, in the table and in memory, which holds its slot. Source: `operations/open.rs`,
`save_position`, `add_position` and `register_position_slot` -/
def addOpened (id : ℤ) (position : Position) : Trades :=
  let added := trades.durable.state.addPosition position
  { trades with durable :=
      { state := { added with slots := added.slots.register id }
        rows := Function.update trades.durable.rows id (some position) } }

/-- Source: `operations/open.rs`, `open_position_impl` from the signature on -/
def opened (mint symbol name : String) (entryPrice tradeSizeSol : ℚ) (origin : PositionOrigin)
    (management : PositionManagement) (signature : String) :
    Trades × Except OperationError String :=
  match persistPositionWithRetry mint aftermath.save positionSaveMaxRetries with
  | .error e => (trades, .error e)
  | .ok id =>
    let position := openedPosition (some id) mint symbol name signature entryPrice tradeSizeSol
      origin management aftermath.now
    let item := VerificationItem.new signature mint (some id) .entry
      (aftermath.height.map expiryHeightAt) aftermath.now
    ((trades.addOpened id position).enqueue item, .ok signature)

/-- Source: `operations/dca.rs`, `add_to_position` from the signature on -/
def added (mint : String) (positionId : ℤ) (dcaAmountSol : ℚ) (signature : String) :
    Trades × Except OperationError String :=
  let expiryHeight := aftermath.height.map expiryHeightAt
  let pendingDca : PendingDcaSwap :=
    ⟨signature, mint, positionId, expiryHeight, aftermath.now, dcaAmountSol⟩
  match trades.dcas.register aftermath.metadataWrite pendingDca with
  | (dcas, .error detail) => ({ trades with dcas := dcas }, .error (.metadata detail))
  | (dcas, .ok _) =>
    match aftermath.price with
    | none => ({ trades with dcas := dcas }, .error (.invalidPrice mint 0))
    | some price =>
      match trades.durable.apply aftermath.answers aftermath.answers
          (.dcaSubmitted positionId signature dcaAmountSol price) with
      | (durable, .error e) =>
        ({ trades with
            durable := durable
            dcas := (dcas.clear aftermath.rollbackWrite signature).1 },
          .error (.transitionFailed "dca" mint e))
      | (durable, .ok _) =>
        let item := VerificationItem.newDca signature mint (some positionId) expiryHeight
          aftermath.now
        (enqueue { trades with durable := durable, dcas := dcas } item, .ok signature)

/-- A signature of the mint is indexed. Source: `state.rs`, `add_signature_to_index` -/
def indexed (signature mint : String) : Trades :=
  { trades with durable :=
      { trades.durable with state :=
        { trades.durable.state with
          sigToMint := indexSignature trades.durable.state.sigToMint (some signature) mint } } }

/-- Source: `operations/partial_close.rs`, `partial_close_position` from the signature on; a height
that could not be read counts as 0. -/
def soldPartly (mint : String) (positionId : ℤ) (exitAmount : ℕ) (exitPercentage marketPrice : ℚ)
    (signature : String) : Trades × Except OperationError String :=
  let expiryHeight := expiryHeightAt (aftermath.height.getD 0)
  let pendingPartial : PendingPartialExit :=
    ⟨signature, mint, positionId, exitAmount, exitPercentage, some expiryHeight, aftermath.now⟩
  match trades.exits.register aftermath.metadataWrite pendingPartial with
  | (exits, .error detail) =>
    ({ trades with exits := exits.clearMark mint }, .error (.metadata detail))
  | (exits, .ok _) =>
    let registered := indexed { trades with exits := exits } signature mint
    match registered.durable.apply aftermath.answers aftermath.answers
        (.partialExitSubmitted positionId signature exitAmount exitPercentage marketPrice) with
    | (durable, .error e) =>
      ({ registered with
          durable := durable
          exits := (exits.clearDetail aftermath.rollbackWrite signature).1.clearMark mint },
        .error (.transitionFailed "partial_exit" mint e))
    | (durable, .ok _) =>
      let item := VerificationItem.newPartialExit signature mint (some positionId) exitAmount
        exitPercentage (some expiryHeight) aftermath.now
      (enqueue { registered with durable := durable } item, .ok signature)

/-- The exit is stamped on the first row of the mint, and the position is looked up by the mint
again. Source: `operations/close.rs`, `close_position_direct` from the signature on -/
def closed (mint : String) (exitPrice : ℚ) (exitReason : String) (signature : String) :
    Trades × Except OperationError String :=
  let stamped := trades.durable.state.stampExit mint signature exitPrice exitReason
  let positionId := (stamped.store.getByMint mint).bind (·.id)
  let item := VerificationItem.new signature mint positionId .exit
    (aftermath.height.map expiryHeightAt) aftermath.now
  (enqueue { trades with durable := { trades.durable with state := stamped } } item, .ok signature)

end Trades

namespace Operation

variable (operation : Operation) (aftermath : Aftermath) (trades : Trades)

/-- What the swaps of the operation came back with. -/
def replies : List (Except Swaps.Error SwapResult) :=
  match operation with
  | openPosition _ _ _ _ _ _ _ reply | addToPosition _ _ _ reply => [reply]
  | partialClosePosition _ _ _ _ _ rungs | closePositionDirect _ _ _ _ rungs => (climb rungs).1

/-- The operation from its swap on; without a signature it ends there. Source: `operations/open.rs`,
`operations/dca.rs`, `operations/partial_close.rs` and `operations/close.rs` -/
def run : Trades × Except OperationError String :=
  match operation with
  | openPosition mint symbol name entryPrice tradeSizeSol origin management reply =>
    match submittedSignature reply with
    | none => (trades, .error (.swapFailed mint))
    | some signature =>
      trades.opened aftermath mint symbol name entryPrice tradeSizeSol origin management
        signature
  | addToPosition mint positionId dcaAmountSol reply =>
    match submittedSignature reply with
    | none => (trades, .error (.swapFailed mint))
    | some signature => trades.added aftermath mint positionId dcaAmountSol signature
  | partialClosePosition mint positionId exitAmount exitPercentage marketPrice rungs =>
    match (climb rungs).2 with
    | none =>
      ({ trades with exits := trades.exits.clearMark mint }, .error (.swapFailed mint))
    | some signature =>
      trades.soldPartly aftermath mint positionId exitAmount exitPercentage marketPrice signature
  | closePositionDirect mint _ exitPrice exitReason rungs =>
    match (climb rungs).2 with
    | none => (trades, .error (.swapFailed mint))
    | some signature => trades.closed aftermath mint exitPrice exitReason signature

/-- The position the swap was executed for; that of an open is the row it makes. -/
def position : Option ℤ :=
  match operation with
  | openPosition mint _ _ _ _ _ _ _ =>
    (persistPositionWithRetry mint aftermath.save positionSaveMaxRetries).toOption
  | addToPosition _ positionId _ _ | partialClosePosition _ positionId _ _ _ _ => some positionId
  | closePositionDirect _ position _ _ _ => position

end Operation

/-! ## What tracks a swap -/

/-- An item of the signature waits, for the position. -/
def VerificationQueue.Tracks (queue : VerificationQueue) (signature : String)
    (position : Option ℤ) : Prop :=
  ∃ item ∈ queue.items, item.signature = signature ∧ item.positionId = position

/-- The rows of the mint that a close can find open after it has stamped the first of them: that one
only if it is not verified. -/
def Store.closable (store : Store) (mint : String) : List Position :=
  match store.positions.filter (·.mint == mint) with
  | [] => []
  | row :: rows => if row.transactionExitVerified then rows else row :: rows

/-- Nothing is in the way of the item: the position could be saved, the metadata could be written,
an add has its price, and the position of a close is still the open one of its mint. -/
def Operation.Undisturbed (aftermath : Aftermath) (trades : Trades) : Operation → Prop
  | .openPosition .. =>
    ∃ attempt, 1 ≤ attempt ∧ attempt ≤ positionSaveMaxRetries ∧
      (aftermath.save attempt).isOk = true
  | .addToPosition .. => aftermath.metadataWrite.isOk = true ∧ aftermath.price.isSome = true
  | .partialClosePosition .. => aftermath.metadataWrite.isOk = true
  | .closePositionDirect mint position _ _ _ =>
    ((trades.durable.state.store.closable mint).find? (·.isOpen)).bind (·.id) = position

section tracked

variable {aftermath : Aftermath} {trades : Trades} {signature : String}
  {queue : VerificationQueue} {position : Option ℤ}

lemma VerificationQueue.tracks_enqueue (item : VerificationItem)
    (hown : ∀ waiting ∈ queue.items, waiting.signature = item.signature →
      waiting.positionId = position) :
    (queue.enqueue item).Tracks item.signature position ↔
      item.positionId = position ∨ item.signature ∈ queue.signatures := by
  have hqueued : item.signature ∈ queue.signatures ↔ queue.Tracks item.signature position := by
    constructor
    · intro h
      obtain ⟨waiting, hwaiting, hsignature⟩ := mem_map.mp h
      exact ⟨waiting, hwaiting, hsignature, hown waiting hwaiting hsignature⟩
    · rintro ⟨waiting, hwaiting, hsignature, -⟩
      exact mem_map.mpr ⟨waiting, hwaiting, hsignature⟩
  by_cases hmem : item.signature ∈ queue.signatures
  · have hsame : queue.enqueue item = queue :=
      if_pos ((VerificationQueue.any_signature item).mpr hmem)
    rw [hsame]
    exact iff_of_true (hqueued.mp hmem) (Or.inr hmem)
  · have hnew : queue.enqueue item = ⟨queue.items ++ [item]⟩ :=
      if_neg fun h => hmem ((VerificationQueue.any_signature item).mp h)
    rw [hnew]
    constructor
    · rintro ⟨found, hfound, hsignature, hposition⟩
      rcases mem_append.mp hfound with hfound | hfound
      · exact absurd (mem_map.mpr ⟨found, hfound, hsignature⟩) hmem
      · rw [mem_singleton.mp hfound] at hposition
        exact Or.inl hposition
    · rintro (hposition | hwaits)
      · exact ⟨item, mem_append_right _ (mem_singleton_self _), rfl, hposition⟩
      · exact absurd hwaits hmem

lemma VerificationQueue.tracks_iff_mem
    (hown : ∀ waiting ∈ queue.items, waiting.signature = signature → waiting.positionId = position) :
    queue.Tracks signature position ↔ signature ∈ queue.signatures := by
  constructor
  · rintro ⟨item, hitem, hsignature, -⟩
    exact mem_map.mpr ⟨item, hitem, hsignature⟩
  · intro h
    obtain ⟨item, hitem, hsignature⟩ := mem_map.mp h
    exact ⟨item, hitem, hsignature, hown item hitem hsignature⟩

lemma isOk_persistPositionWithRetry (mint : String) (save : ℕ → Except String ℤ) {left : ℕ}
    (hleft : left ≤ positionSaveMaxRetries) :
    (persistPositionWithRetry mint save left).isOk = true ↔
      ∃ attempt, positionSaveMaxRetries - left < attempt ∧ attempt ≤ positionSaveMaxRetries ∧
        (save attempt).isOk = true := by
  induction left with
  | zero =>
    constructor
    · intro h
      cases h
    · rintro ⟨attempt, hlow, hhigh, -⟩
      omega
  | succ left ih =>
    have hthis : positionSaveMaxRetries - (left + 1) < positionSaveMaxRetries - left := by omega
    unfold persistPositionWithRetry
    cases hsave : save (positionSaveMaxRetries - left) with
    | ok id =>
      refine iff_of_true rfl ⟨_, hthis, Nat.sub_le _ _, ?_⟩
      rw [hsave]
      rfl
    | error detail =>
      refine (ih (by omega)).trans ?_
      constructor
      · rintro ⟨attempt, hlow, hhigh, hok⟩
        exact ⟨attempt, by omega, hhigh, hok⟩
      · rintro ⟨attempt, hlow, hhigh, hok⟩
        refine ⟨attempt, ?_, hhigh, hok⟩
        -- the attempt that failed is not the one
        have hne : attempt ≠ positionSaveMaxRetries - left := by
          rintro rfl
          rw [hsave] at hok
          cases hok
        omega

lemma PendingDcas.isOk_register (pending : PendingDcas) (written : Except String Unit)
    (entry : PendingDcaSwap) : (pending.register written entry).2.isOk = written.isOk := by
  unfold register persist
  cases written <;> rfl

lemma PendingExits.isOk_register (pending : PendingExits) (written : Except String Unit)
    (entry : PendingPartialExit) : (pending.register written entry).2.isOk = written.isOk := by
  unfold register persist
  cases written <;> rfl

lemma Position.isOpen_exitStamped (position : Position) (exitPrice : ℚ) (exitReason : String) :
    (position.exitStamped signature exitPrice exitReason).isOpen =
      (position.isOpen && !position.transactionExitVerified) := by
  unfold isOpen exitStamped
  cases position.archived <;> cases position.positionType == "buy" <;>
    cases position.exitTime.isNone <;> cases position.exitTransactionSignature.isNone <;>
      cases position.transactionExitVerified <;> rfl

lemma State.getByMint_stampExit (state : State) (mint : String) (exitPrice : ℚ)
    (exitReason : String) :
    ((state.stampExit mint signature exitPrice exitReason).store.getByMint mint).bind (·.id) =
      ((state.store.closable mint).find? (·.isOpen)).bind (·.id) := by
  show ((Store.updateFirst (·.mint == mint) (·.exitStamped signature exitPrice exitReason)
    state.store.positions).find? fun row => row.mint == mint && row.isOpen).bind (·.id) = _
  unfold Store.closable
  generalize state.store.positions = positions
  induction positions with
  | nil => rfl
  | cons row positions ih =>
    unfold Store.updateFirst
    cases hmint : row.mint == mint with
    | false =>
      -- a row of another mint is passed over on both sides
      rw [if_neg Bool.false_ne_true, List.find?_cons_of_neg (by simp [hmint]), ih,
        filter_cons_of_neg (by simp [hmint])]
    | true =>
      have hstamped : (row.exitStamped signature exitPrice exitReason).isOpen =
          (row.isOpen && !row.transactionExitVerified) :=
        row.isOpen_exitStamped exitPrice exitReason
      have hkept : (row.exitStamped signature exitPrice exitReason).mint == mint := hmint
      have hrest : positions.find? (fun row => row.mint == mint && row.isOpen) =
          (positions.filter (·.mint == mint)).find? (·.isOpen) := by
        simp only [List.find?_filter, Bool.decide_and, Bool.decide_coe]
      have hcons : (row :: positions).filter (·.mint == mint) =
          row :: positions.filter (·.mint == mint) := filter_cons_of_pos hmint
      rw [if_pos rfl, hcons]
      dsimp only
      by_cases hverified : row.transactionExitVerified = true
      · rw [hverified, Bool.not_true, Bool.and_false] at hstamped
        rw [if_pos hverified, List.find?_cons_of_neg (by simp [hstamped]), hrest]
      · rw [Bool.eq_false_of_not_eq_true hverified, Bool.not_false, Bool.and_true] at hstamped
        rw [if_neg hverified]
        cases hopen : row.isOpen with
        | true =>
          rw [List.find?_cons_of_pos (by rw [hkept, hstamped, hopen]; rfl),
            List.find?_cons_of_pos hopen]
          rfl
        | false =>
          rw [List.find?_cons_of_neg (by simp [hstamped, hopen]),
            List.find?_cons_of_neg (by simp [hopen]), hrest]

lemma Trades.tracks_opened (mint symbol name : String) (entryPrice tradeSizeSol : ℚ)
    (origin : PositionOrigin) (management : PositionManagement)
    (hown : ∀ item ∈ trades.queue.items, item.signature = signature → item.positionId =
      (persistPositionWithRetry mint aftermath.save positionSaveMaxRetries).toOption) :
    (trades.opened aftermath mint symbol name entryPrice tradeSizeSol origin management
        signature).1.queue.Tracks signature
          (persistPositionWithRetry mint aftermath.save positionSaveMaxRetries).toOption ↔
      (∃ attempt, 1 ≤ attempt ∧ attempt ≤ positionSaveMaxRetries ∧
        (aftermath.save attempt).isOk = true) ∨ signature ∈ trades.queue.signatures := by
  have hsaved := isOk_persistPositionWithRetry mint aftermath.save (le_refl positionSaveMaxRetries)
  rw [Nat.sub_self] at hsaved
  simp only [Nat.succ_le_iff, ← hsaved]
  unfold opened
  cases hpersist : persistPositionWithRetry mint aftermath.save positionSaveMaxRetries with
  | error e =>
    rw [hpersist] at hown
    refine (VerificationQueue.tracks_iff_mem hown).trans ⟨Or.inr, ?_⟩
    rintro (h | h)
    · cases h
    · exact h
  | ok id =>
    rw [hpersist] at hown
    refine (VerificationQueue.tracks_enqueue (.new signature mint (some id) .entry
      (aftermath.height.map expiryHeightAt) aftermath.now) hown).trans ?_
    exact or_congr (iff_of_true rfl rfl) Iff.rfl

lemma Trades.tracks_added (mint : String) (positionId : ℤ) (dcaAmountSol : ℚ)
    (hown : ∀ item ∈ trades.queue.items, item.signature = signature →
      item.positionId = some positionId) :
    (trades.added aftermath mint positionId dcaAmountSol signature).1.queue.Tracks signature
        (some positionId) ↔
      (aftermath.metadataWrite.isOk = true ∧ aftermath.price.isSome = true) ∨
        signature ∈ trades.queue.signatures := by
  have hwaits := VerificationQueue.tracks_iff_mem hown
  have hregister := PendingDcas.isOk_register trades.dcas aftermath.metadataWrite
    ⟨signature, mint, positionId, aftermath.height.map expiryHeightAt, aftermath.now, dcaAmountSol⟩
  unfold added
  dsimp only
  generalize trades.dcas.register aftermath.metadataWrite _ = registered at hregister
  obtain ⟨dcas, detail | _⟩ := registered
  · -- the metadata could not be written
    have hfailed : ¬ aftermath.metadataWrite.isOk = true := by
      rw [← hregister]
      exact Bool.false_ne_true
    exact hwaits.trans ⟨Or.inr, fun h => h.resolve_left fun h => hfailed h.1⟩
  · have hstored : aftermath.metadataWrite.isOk = true := hregister.symm
    dsimp only
    cases aftermath.price with
    | none => exact hwaits.trans ⟨Or.inr, fun h => h.resolve_left fun h => by cases h.2⟩
    | some price =>
      refine (VerificationQueue.tracks_enqueue (.newDca signature mint (some positionId)
        (aftermath.height.map expiryHeightAt) aftermath.now) hown).trans ?_
      exact or_congr (iff_of_true rfl ⟨hstored, rfl⟩) Iff.rfl

lemma Trades.tracks_soldPartly (mint : String) (positionId : ℤ) (exitAmount : ℕ)
    (exitPercentage marketPrice : ℚ)
    (hown : ∀ item ∈ trades.queue.items, item.signature = signature →
      item.positionId = some positionId) :
    (trades.soldPartly aftermath mint positionId exitAmount exitPercentage marketPrice
        signature).1.queue.Tracks signature (some positionId) ↔
      aftermath.metadataWrite.isOk = true ∨ signature ∈ trades.queue.signatures := by
  have hwaits := VerificationQueue.tracks_iff_mem hown
  have hregister := PendingExits.isOk_register trades.exits aftermath.metadataWrite
    ⟨signature, mint, positionId, exitAmount, exitPercentage,
      some (expiryHeightAt (aftermath.height.getD 0)), aftermath.now⟩
  unfold soldPartly
  dsimp only
  generalize trades.exits.register aftermath.metadataWrite _ = registered at hregister
  obtain ⟨exits, detail | _⟩ := registered
  · have hfailed : ¬ aftermath.metadataWrite.isOk = true := by
      rw [← hregister]
      exact Bool.false_ne_true
    exact hwaits.trans ⟨Or.inr, fun h => h.resolve_left hfailed⟩
  · refine (VerificationQueue.tracks_enqueue (.newPartialExit signature mint
      (some positionId) exitAmount exitPercentage
      (some (expiryHeightAt (aftermath.height.getD 0))) aftermath.now) hown).trans ?_
    exact or_congr (iff_of_true rfl hregister.symm) Iff.rfl

lemma Trades.tracks_closed (mint : String) (position : Option ℤ) (exitPrice : ℚ)
    (exitReason : String)
    (hown : ∀ item ∈ trades.queue.items, item.signature = signature → item.positionId = position) :
    (trades.closed aftermath mint exitPrice exitReason signature).1.queue.Tracks signature
        position ↔
      ((trades.durable.state.store.closable mint).find? (·.isOpen)).bind (·.id) = position ∨
        signature ∈ trades.queue.signatures := by
  have hfound := @State.getByMint_stampExit signature trades.durable.state mint exitPrice exitReason
  rw [← hfound]
  exact VerificationQueue.tracks_enqueue (.new signature mint
    (((trades.durable.state.stampExit mint signature exitPrice exitReason).store.getByMint mint).bind
      (·.id)) .exit (aftermath.height.map expiryHeightAt) aftermath.now) hown

end tracked

/-- **A swap that was sent is tracked** exactly when nothing was in the way of its item, or one of
its signature waited already: whatever the operation is, whatever its swaps came back with, and
whatever fails afterwards. -/
theorem tracked_iff (operation : Operation) (aftermath : Aftermath) (trades : Trades)
    (signature : String)
    (hsubmitted : ∃ reply ∈ operation.replies, submittedSignature reply = some signature)
    (hown : ∀ item ∈ trades.queue.items, item.signature = signature →
      item.positionId = operation.position aftermath) :
    (operation.run aftermath trades).1.queue.Tracks signature (operation.position aftermath) ↔
      operation.Undisturbed aftermath trades ∨ signature ∈ trades.queue.signatures := by
  obtain ⟨reply, hreply, hsignature⟩ := hsubmitted
  cases operation with
  | openPosition mint symbol name entryPrice tradeSizeSol origin management swap =>
    obtain rfl := mem_singleton.mp hreply
    unfold Operation.run
    simp only [hsignature]
    exact Trades.tracks_opened mint symbol name entryPrice tradeSizeSol origin management hown
  | addToPosition mint positionId dcaAmountSol swap =>
    obtain rfl := mem_singleton.mp hreply
    unfold Operation.run
    simp only [hsignature]
    exact Trades.tracks_added mint positionId dcaAmountSol hown
  | partialClosePosition mint positionId exitAmount exitPercentage marketPrice rungs =>
    unfold Operation.run
    simp only [climb_signature hreply hsignature]
    exact Trades.tracks_soldPartly mint positionId exitAmount exitPercentage marketPrice hown
  | closePositionDirect mint position exitPrice exitReason rungs =>
    unfold Operation.run
    simp only [climb_signature hreply hsignature]
    exact Trades.tracks_closed mint position exitPrice exitReason hown

/-! ### On a position that is held -/

/-- One verified position, nothing in flight. -/
def holding : Trades :=
  let position := (openedPosition (some 1) "MINT" "TOK" "Token" "open-sig" 2 2 .manual .userOnly
    0).entryVerified 2 100 5000 2
  { durable := ⟨(State.empty ⟨0, {1}⟩).addPosition position,
      Function.update (fun _ => none) 1 (some position)⟩
    exits := ⟨fun _ => 0, [], []⟩
    dcas := ⟨[], []⟩
    queue := ⟨[]⟩ }

/-- An add of one SOL that filled. -/
def filledAdd : Operation := .addToPosition "MINT" 1 1 (.ok ⟨"dca-sig", 10 ^ 9, 50⟩)

/-- Everything is answered. -/
def calm : Aftermath where
  save := fun _ => .ok 2
  height := some 100
  metadataWrite := .ok ()
  rollbackWrite := .ok ()
  price := some 2
  answers := Answers.willing 0
  now := 0

/-- The add is tracked when everything is answered. -/
theorem tracked_iff_filledAdd :
    (filledAdd.run calm holding).1.queue.Tracks "dca-sig" (some 1) ↔
      filledAdd.Undisturbed calm holding ∨ "dca-sig" ∈ holding.queue.signatures :=
  tracked_iff filledAdd calm holding "dca-sig"
    ⟨_, mem_singleton_self _, rfl⟩ (fun _ hitem => absurd hitem not_mem_nil)

/-- An add whose metadata cannot be written is on chain, and nothing tracks it. -/
theorem not_tracked :
    ¬ ∀ (operation : Operation) (aftermath : Aftermath) (trades : Trades) (signature : String),
      (∃ reply ∈ operation.replies, submittedSignature reply = some signature) →
      signature ∉ trades.queue.signatures →
      (operation.run aftermath trades).1.queue.Tracks signature (operation.position aftermath) := by
  intro h
  obtain ⟨item, hitem, -⟩ := h filledAdd { calm with metadataWrite := .error "disk full" } holding
    "dca-sig" ⟨_, mem_singleton_self _, rfl⟩ not_mem_nil
  cases hitem

end Dripline.Positions
