import Mathlib.Data.List.Infix
import Dripline.Chain.Asset

/-!
# What a swap fails with

The typed failures of a swap, and the three questions the fallback chain asks of them.

* `DirectSwapError` — the failures of the direct pool engine.
* `RpcError`, `DataError`, `SolanaError`, `Error` — those of everything around it.
* `DirectSwapError.settledSignature`, `unconfirmedSwapSignature` — was something sent that may have
  moved money?
* `DirectSwapError.safeToFallback`, `isRetryableError` — may another router try?
* `unconfirmedSwapSignatureFromMessage` — the first question, asked of a text.
-/

namespace Dripline.Swaps

open Dripline.Chain List

/-- An account address, by its text. -/
abbrev Pubkey := String

/-! ## The direct engine -/

/-- A failure inside the direct pool-swap engine. Source: `direct/error.rs` -/
inductive DirectSwapError
  | unsupportedVenue (program : Pubkey)
  | poolUndecodable (pool : Pubkey) (detail : String)
  | pairNotInPool (pool inputMint outputMint : Pubkey)
  | poolNotTradable (pool : Pubkey) (detail : String)
  | insufficientLiquidity (pool : Pubkey) (amountIn : ℕ) (detail : String)
  | invalidRequest (detail : String)
  | accountUnavailable (address : Pubkey) (detail : String)
  | nodeUnavailable (operation detail : String)
  | quoteMath (detail : String)
  | build (detail : String)
  | simulationRejected (detail : String) (logs : List String)
  | simulationUnavailable (detail : String)
  | submitFailed (detail : String)
  | blockhashExpired (signature : String) (lastValidBlockHeight currentBlockHeight : ℕ)
  | confirmationTimeout (signature : String) (waitedMs : ℕ)
  | transactionFailed (signature detail : String)
  | outputNotReceived (signature : String) (expectedMinimum received : ℕ)
  | insufficientBalance (mint : Pubkey) (required available : ℕ)
  | marketMoved (pool : Pubkey) (acceptedMinNetOut freshExpectedNetOut : ℕ)
  deriving DecidableEq

/-- The signature of a transaction that reached the chain and was not reverted.
Source: `direct/error.rs` -/
def DirectSwapError.settledSignature : DirectSwapError → Option String
  | .confirmationTimeout signature _ => some signature
  | .outputNotReceived signature _ _ => some signature
  | _ => none

/-- The outcome is said to leave no ambiguous wallet state.
Source: `direct/error.rs` -/
def DirectSwapError.safeToFallback : DirectSwapError → Bool
  | .marketMoved .. | .build .. | .simulationRejected .. | .simulationUnavailable ..
  | .submitFailed .. | .blockhashExpired .. | .transactionFailed .. => true
  | _ => false

/-! ## Everything around it -/

/-- An RPC operation error; durations by their text. Source: `rpc/errors.rs` -/
inductive RpcError
  | rateLimited (providerId : String) (retryAfter : Option String)
  | network (message : String) (isTimeout : Bool)
  | providerError (code : ℤ) (message : String)
  | timeout (providerId after : String)
  | circuitOpen (providerId retryAfter : String)
  | noProvidersAvailable (lastError : Option String)
  | accountNotFound (pubkey : String)
  | invalidResponse (message : String)
  | configuration (message : String)
  | other (message : String)

/-- Source: `rpc/errors.rs` -/
def RpcError.isRetryable : RpcError → Bool
  | .rateLimited .. | .network .. | .timeout .. => true
  | .providerError code _ => decide (-32099 ≤ code ∧ code ≤ -32000)
  | _ => false

/-- Source: `rpc/errors.rs`, `fmt` -/
def RpcError.text : RpcError → String
  | .rateLimited providerId none => "Rate limited by " ++ providerId
  | .rateLimited providerId (some after) =>
    "Rate limited by " ++ providerId ++ " (retry after " ++ after ++ ")"
  | .network message true => "Network timeout: " ++ message
  | .network message false => "Network error: " ++ message
  | .providerError code message => "Provider error " ++ toString code ++ ": " ++ message
  | .timeout providerId after => "Timeout after " ++ after ++ " from " ++ providerId
  | .circuitOpen providerId retryAfter =>
    "Circuit open for " ++ providerId ++ " (retry after " ++ retryAfter ++ ")"
  | .noProvidersAvailable none => "No providers available"
  | .noProvidersAvailable (some err) => "No providers available: " ++ err
  | .accountNotFound pubkey => "Account not found: " ++ pubkey
  | .invalidResponse message => "Invalid response: " ++ message
  | .configuration message => "Configuration error: " ++ message
  | .other message => message

/-- Source: `errors/data.rs` -/
inductive DataError
  | parseError (dataType error : String)
  | validationError (field value reason : String)
  | invalidFormat (expected received : String)
  | invalidAmount (amount reason : String)

/-- Source: `errors/data.rs`, the texts of `DataError` -/
def DataError.text : DataError → String
  | .parseError dataType error => "failed to parse " ++ dataType ++ ": " ++ error
  | .validationError field value reason =>
    "invalid value for field '" ++ field ++ "' (" ++ value ++ "): " ++ reason
  | .invalidFormat expected received => "expected " ++ expected ++ ", received " ++ received
  | .invalidAmount amount reason => "invalid amount '" ++ amount ++ "': " ++ reason

/-- The errors of the Solana adapter a swap decides by, and the rest by their text.
Source: `chains/solana/error.rs`, `Error` -/
inductive SolanaError
  | simulationRejected (router detail : String)
  | swapCostRejected (router : String) (extraLamports : ℕ) (venue venueProgram : String)
  | directSwap (error : DirectSwapError)
  | other (message : String)

/-- The crate's errors a swap decides by, and the rest by their text.
Source: `errors/error.rs` -/
inductive Error
  | rpc (error : RpcError)
  | network (message : String)
  | rpcProvider (message : String)
  | solana (error : SolanaError)
  | data (error : DataError)
  | other (message : String)

/-- Whether another router may try after the primary one failed with this.
Source: `operations.rs` of `swaps`, `is_retryable_error` -/
def isRetryableError : Error → Bool
  | .rpc error => error.isRetryable
  | .network _ | .rpcProvider _ => true
  | .solana (.directSwap direct) => direct.safeToFallback
  | .solana (.simulationRejected ..) => true
  | .solana (.swapCostRejected ..) => true
  | _ => false

/-! ## Asking a text -/

/-- The text around the first occurrence of a marker. -/
def splitOnce (marker : List Char) : List Char → Option (List Char × List Char)
  | [] => if marker = [] then some ([], []) else none
  | c :: rest =>
    if marker.isPrefixOf (c :: rest) then some ([], (c :: rest).drop marker.length)
    else (splitOnce marker rest).map fun halves => (c :: halves.1, halves.2)

/-- `str::contains`. -/
def mentions (text marker : String) : Bool := (splitOnce marker.toList text.toList).isSome

/-- The characters the standard library splits at. -/
def isWhitespace (c : Char) : Bool :=
  let n := c.toNat
  decide (9 ≤ n ∧ n ≤ 13) || n == 0x20 || n == 0x85 || n == 0xA0 || n == 0x1680 ||
    decide (0x2000 ≤ n ∧ n ≤ 0x200A) || n == 0x2028 || n == 0x2029 || n == 0x202F ||
    n == 0x205F || n == 0x3000

/-- The last of the tokens that whitespace separates. -/
def lastToken (text : List Char) : Option (List Char) :=
  let trimmed := text.reverse.dropWhile isWhitespace
  match trimmed.takeWhile fun c => !isWhitespace c with
  | [] => none
  | token => some token.reverse

/-- Source: `chains/solana/adapter.rs` -/
def looksLikeTransactionHash (candidate : List Char) : Bool :=
  decide (86 ≤ candidate.length) && decide (candidate.length ≤ 88) &&
    candidate.all base58Alphabet.contains

/-- The sentence a confirmation that timed out is reported with. -/
def unconfirmedMarker : String := " not confirmed within timeout"

/-- Source: `operations.rs` of `swaps`, `unconfirmed_swap_signature_from_message` -/
def unconfirmedSwapSignatureFromMessage (message : String) : Option String :=
  (splitOnce unconfirmedMarker.toList message.toList).bind fun halves =>
    (lastToken halves.1).bind fun candidate =>
      if looksLikeTransactionHash candidate then some (String.ofList candidate) else none

/-- The text of an error a swap failed with, the direct engine's apart. -/
def Error.text : Error → String
  | .rpc error => error.text
  | .network message | .rpcProvider message | .other message => message
  | .solana (.simulationRejected router detail) =>
    router ++ " transaction failed simulation: " ++ detail
  | .solana (.swapCostRejected router extraLamports venue _) =>
    router ++ " would spend " ++ toString extraLamports ++
      " lamports beyond the trade, on an account owned by " ++ venue
  | .solana (.directSwap _) => ""
  | .solana (.other message) => message
  | .data error => error.text

/-- The signature of a swap that was submitted and may have moved money.
Source: `operations.rs` of `swaps`, `unconfirmed_swap_signature` -/
def unconfirmedSwapSignature : Error → Option String
  | .solana (.directSwap direct) => direct.settledSignature
  | error => unconfirmedSwapSignatureFromMessage error.text

/-! ## A confirmation that timed out -/

lemma isPrefixOf_append_eq_false {marker s : List Char} (rest : List Char)
    (h : (marker.zip s).any (fun p => p.1 != p.2) = true) :
    marker.isPrefixOf (s ++ rest) = false := by
  induction marker generalizing s with
  | nil => cases h
  | cons m marker ih =>
    cases s with
    | nil => cases h
    | cons c s =>
      simp only [zip_cons_cons, any_cons, Bool.or_eq_true, bne_iff_ne] at h
      rw [cons_append, isPrefixOf_cons_cons]
      rcases h with h | h
      · rw [beq_eq_false_iff_ne.mpr h, Bool.false_and]
      · rw [ih h, Bool.and_false]

lemma splitOnce_append {marker before rest : List Char}
    (h : ∀ s ∈ before.tails, s ≠ [] → (marker.zip s).any (fun p => p.1 != p.2) = true) :
    splitOnce marker (before ++ rest) =
      (splitOnce marker rest).map fun halves => (before ++ halves.1, halves.2) := by
  induction before with
  | nil => simp
  | cons c before ih =>
    have hskip := isPrefixOf_append_eq_false rest
      (h (c :: before) (by simp) (cons_ne_nil _ _))
    rw [cons_append] at hskip ⊢
    rw [splitOnce, if_neg (by rw [hskip]; decide), ih fun s hs hne => h s (by simp [hs]) hne,
      Option.map_map]
    rfl

lemma splitOnce_marker {word : List Char} (hblank : ' ' ∉ word) (hlen : 4 ≤ word.length) :
    splitOnce unconfirmedMarker.toList (' ' :: word ++ unconfirmedMarker.toList) =
      some (' ' :: word, []) := by
  rw [splitOnce_append]
  · have hfirst : splitOnce unconfirmedMarker.toList unconfirmedMarker.toList = some ([], []) := by
      decide
    rw [hfirst, Option.map_some, append_nil]
  · intro s hs hne
    rw [mem_tails] at hs
    rcases suffix_cons_iff.mp hs with rfl | hs
    · -- the marker's first word has three letters
      match word, hlen with
      | a :: b :: c :: d :: rest, _ =>
        have hd : ' ' ≠ d := by
          rintro rfl
          simp at hblank
        rw [any_eq_true]
        exact ⟨(' ', d), mem_of_getElem? (i := 4) rfl, by simpa using hd⟩
    · match s, hne with
      | c :: rest, _ =>
        have hc : ' ' ≠ c := by
          rintro rfl
          exact hblank (hs.subset mem_cons_self)
        rw [any_eq_true]
        exact ⟨(' ', c), mem_cons_self, by simpa using hc⟩

lemma isWhitespace_of_mem_base58Alphabet : ∀ c ∈ base58Alphabet, isWhitespace c = false := by
  have hall : (base58Alphabet.all fun c => !isWhitespace c) = true := by decide
  simpa using hall

lemma blank_not_mem_base58Alphabet : ' ' ∉ base58Alphabet := by decide

lemma lastToken_append (before : List Char) {word : List Char} (hne : word ≠ [])
    (hword : ∀ c ∈ word, isWhitespace c = false) :
    lastToken (before ++ ' ' :: word) = some word := by
  have hreverse : (before ++ ' ' :: word).reverse = word.reverse ++ ' ' :: before.reverse := by
    simp
  have hdrop : (word.reverse ++ ' ' :: before.reverse).dropWhile isWhitespace =
      word.reverse ++ ' ' :: before.reverse := by
    obtain ⟨c, rest, hrest⟩ := exists_cons_of_ne_nil (reverse_ne_nil_iff.mpr hne)
    rw [hrest, cons_append, dropWhile_cons_of_neg]
    rw [hword c (mem_reverse.mp (hrest ▸ mem_cons_self))]
    decide
  have htake : (word.reverse ++ ' ' :: before.reverse).takeWhile (fun c => !isWhitespace c) =
      word.reverse := by
    rw [takeWhile_append_of_pos fun c hc => by rw [hword c (mem_reverse.mp hc)]; rfl]
    have hstop : (!isWhitespace ' ') = false := by decide
    rw [takeWhile_cons_of_neg (by rw [hstop]; decide), append_nil]
  unfold lastToken
  simp only [hreverse, hdrop, htake]
  split
  next hnil => exact absurd (reverse_eq_nil_iff.mp hnil) hne
  next => rw [reverse_reverse]

lemma unconfirmedSwapSignature_timeout {signature : String} (h : IsTransactionHash signature) :
    unconfirmedSwapSignature (.data (.parseError "transaction"
      ("Transaction " ++ signature ++ " not confirmed within timeout"))) =
      if 86 ≤ signature.toList.length then some signature else none := by
  obtain ⟨hlower, hupper, hbase58⟩ := h
  have hblank : ' ' ∉ signature.toList := fun hmem => blank_not_mem_base58Alphabet (hbase58 _ hmem)
  have htext : (Error.data (.parseError "transaction"
      ("Transaction " ++ signature ++ " not confirmed within timeout"))).text.toList =
      "failed to parse transaction: Transaction".toList ++
        (' ' :: signature.toList ++ unconfirmedMarker.toList) := by
    have happend : ∀ a b c d e f : String, (a ++ b ++ c ++ (d ++ e ++ f)).toList =
        (a.toList ++ b.toList ++ c.toList ++ d.toList) ++ (e.toList ++ f.toList) := by
      intro a b c d e f
      simp only [String.toList_append, append_assoc]
    have hbefore : "failed to parse ".toList ++ "transaction".toList ++ ": ".toList ++
        "Transaction ".toList = "failed to parse transaction: Transaction".toList ++ [' '] := by
      decide
    refine (happend _ _ _ _ _ _).trans ?_
    rw [hbefore, append_assoc]
    rfl
  have hsplit : splitOnce unconfirmedMarker.toList
      ("failed to parse transaction: Transaction".toList ++
        (' ' :: signature.toList ++ unconfirmedMarker.toList)) =
      some ("failed to parse transaction: Transaction".toList ++ ' ' :: signature.toList, []) := by
    rw [splitOnce_append (by decide), splitOnce_marker hblank (by omega), Option.map_some]
  have hlast := lastToken_append "failed to parse transaction: Transaction".toList
    (show signature.toList ≠ [] by rintro hnil; rw [hnil] at hlower; simp at hlower)
    (fun c hc => isWhitespace_of_mem_base58Alphabet c (hbase58 c hc))
  show unconfirmedSwapSignatureFromMessage (Error.text _) = _
  unfold unconfirmedSwapSignatureFromMessage
  rw [htext, hsplit, Option.bind_some, hlast, Option.bind_some, String.ofList_toList]
  have hall : signature.toList.all base58Alphabet.contains = true :=
    all_eq_true.mpr fun c hc => contains_iff_mem.mpr (hbase58 c hc)
  have hshape : looksLikeTransactionHash signature.toList = decide (86 ≤ signature.toList.length) := by
    unfold looksLikeTransactionHash
    rw [hall, Bool.and_true, decide_eq_true hupper, Bool.and_true]
  rw [hshape]
  simp only [decide_eq_true_eq]

end Dripline.Swaps
