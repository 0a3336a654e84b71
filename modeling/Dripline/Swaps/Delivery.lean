import Dripline.Swaps.Receipt

/-!
# What a receipt says of a confirmed swap

The answers of `direct/verify.rs` where the chain has reported no error.

* `faithful_iff` — when a receipt is all this.
-/

namespace Dripline.Swaps

/-- The key of an entry of `accountKeys`, in either encoding. -/
def AccountKey.key : AccountKey → Option String
  | .text key => some key
  | .object pubkey => pubkey
  | .other => none

/-- The place of the owner among the accounts of the transaction. -/
def ownerPlace (owner : Pubkey) (details : TransactionDetails) : Option ℕ :=
  (details.accountKeys.getD []).findIdx? fun entry => entry.key == some owner

/-- What the transaction did to the lamports of the owner; a balance that is not reported is
none. -/
def ownerChange (owner : Pubkey) (details : TransactionDetails) (info : TransactionMeta) : ℤ :=
  match ownerPlace owner details with
  | none => 0
  | some place => (info.postBalances.getD place 0 : ℤ) - info.preBalances.getD place 0

/-- The change of the owner's lamports with the fee, as far as the report has any. -/
def ownerGain (owner : Pubkey) (details : TransactionDetails) : ℤ :=
  match details.metadata with
  | none => 0
  | some info => ownerChange owner details info + info.fee

/-- No confirmed swap is discarded; an exact receipt covers the floor; and an inexact one of a
native output reports no more than the floor, or than the change of the owner's lamports with the
fee. -/
structure Faithful (signature : String) (owner : Pubkey) (plan : SwapPlan)
    (details : TransactionDetails) :
    Prop where
  kept : ∀ e, receiptFromTransaction signature owner plan details = .error e →
    e.settledSignature.isSome = true
  covered : ∀ receipt, receiptFromTransaction signature owner plan details = .ok receipt →
    receipt.exact = true → plan.quote.minNetOut ≤ receipt.received
  bounded : plan.outputIsNative = true → ∀ receipt,
    receiptFromTransaction signature owner plan details = .ok receipt → receipt.exact = false →
      (receipt.received : ℤ) ≤ max (plan.quote.minNetOut : ℤ) (ownerGain owner details)

/-- No transfer to the output account accounts for the floor. -/
def Unpaid (plan : SwapPlan) (info : TransactionMeta) : Prop :=
  ∀ gross, swapOutputTransferAmount info plan.outputAccount = some gross →
    gross - plan.quote.fee.amount < plan.quote.minNetOut

variable {details : TransactionDetails}

lemma accountIndexOf_eq (owner : Pubkey)
    (hkeys : ∀ entry ∈ details.accountKeys.getD [], entry.key.isSome = true) :
    accountIndexOf details owner = ownerPlace owner details := by
  have hlist : ∀ entries : List AccountKey, (∀ entry ∈ entries, entry.key.isSome = true) →
      (entries.filterMap AccountKey.key).findIdx? (· == owner) =
        entries.findIdx? fun entry => entry.key == some owner := by
    intro entries
    induction entries with
    | nil => intro _; rfl
    | cons entry entries ih =>
      intro hall
      obtain ⟨key, hkey⟩ := Option.isSome_iff_exists.mp (hall entry List.mem_cons_self)
      rw [List.filterMap_cons_some hkey, List.findIdx?_cons, List.findIdx?_cons, hkey,
        ih fun later hlater => hall later (List.mem_cons_of_mem _ hlater)]
      rfl
  have hmessage : accountKeysFromMessage details =
      (details.accountKeys.getD []).filterMap AccountKey.key :=
    List.filterMap_congr fun entry _ => by cases entry <;> rfl
  unfold accountIndexOf ownerPlace
  rw [hmessage]
  exact hlist _ hkeys

lemma lamportReceipt_spec {signature : String} {owner : Pubkey} {details : TransactionDetails}
    {info : TransactionMeta} (hkeys : ∀ entry ∈ details.accountKeys.getD [], entry.key.isSome = true)
    (hfee : info.fee < 2 ^ 64) :
    (ownerPlace owner details = none →
      ∃ e, lamportReceipt signature owner details info = .error e ∧ e.settledSignature = none) ∧
    ((ownerPlace owner details).isSome = true →
      ∃ receipt, lamportReceipt signature owner details info = .ok receipt ∧ receipt.exact = false ∧
        (0 ≤ ownerChange owner details info →
          (receipt.received : ℤ) ≤ ownerChange owner details info + info.fee) ∧
        (ownerChange owner details info < 0 → receipt.received = info.fee)) := by
  unfold lamportReceipt ownerChange
  rw [accountIndexOf_eq owner hkeys]
  cases ownerPlace owner details with
  | none => simp [DirectSwapError.settledSignature]
  | some place =>
    refine ⟨by simp, fun _ => ⟨_, rfl, rfl, ?_, ?_⟩⟩
    · simp only [saturatingAdd]
      omega
    · simp only [saturatingAdd]
      omega

lemma nativeReceipt_spec (signature : String) (owner : Pubkey) (plan : SwapPlan)
    (details : TransactionDetails) (info : TransactionMeta) :
    (Unpaid plan info → nativeReceipt signature owner plan details info =
      lamportReceipt signature owner details info) ∧
    (¬Unpaid plan info → ∃ receipt, nativeReceipt signature owner plan details info = .ok receipt ∧
      receipt.exact = true ∧ plan.quote.minNetOut ≤ receipt.received) := by
  unfold nativeReceipt Unpaid
  cases swapOutputTransferAmount info plan.outputAccount with
  | none => simp
  | some gross =>
    simp only [Option.some.injEq, forall_eq']
    by_cases hfloor : plan.quote.minNetOut ≤ gross - plan.quote.fee.amount
    · simp [hfloor]
    · simp [hfloor]

variable {info : TransactionMeta} {signature : String} {plan : SwapPlan} {owner : Pubkey}

lemma faithful_of_token (hmeta : details.metadata = some info) (hnone : info.err = none)
    (htoken : plan.outputIsNative = false) : Faithful signature owner plan details := by
  have hresult : receiptFromTransaction signature owner plan details =
      match tokenDelta info details owner plan with
      | none => .ok ⟨plan.quote.minNetOut, false, info.fee, details.slot⟩
      | some received =>
        if received < plan.quote.minNetOut then
          .error (.outputNotReceived signature plan.quote.minNetOut received)
        else .ok ⟨received, true, info.fee, details.slot⟩ := by
    unfold receiptFromTransaction
    rw [hmeta]
    dsimp only
    rw [hnone]
    dsimp only
    rw [htoken]
    exact if_neg Bool.false_ne_true
  refine ⟨fun e he => ?_, fun receipt hreceipt hexact => ?_, fun hnative => by simp [htoken] at hnative⟩
  · rw [hresult] at he
    split at he
    · cases he
    · split at he
      · obtain rfl := Except.error.inj he
        rfl
      · cases he
  · rw [hresult] at hreceipt
    split at hreceipt
    · obtain rfl := Except.ok.inj hreceipt
      cases hexact
    · split at hreceipt
      · cases hreceipt
      · rename_i hfloor
        obtain rfl := Except.ok.inj hreceipt
        exact not_lt.mp hfloor

lemma faithful_of_estimate_iff (hmeta : details.metadata = some info) (hfee : info.fee < 2 ^ 64)
    (hkeys : ∀ entry ∈ details.accountKeys.getD [], entry.key.isSome = true)
    (hnative : plan.outputIsNative = true)
    (hresult : receiptFromTransaction signature owner plan details =
      lamportReceipt signature owner details info) :
    Faithful signature owner plan details ↔
      (ownerPlace owner details).isSome = true ∧
        (0 ≤ ownerChange owner details info ∨ info.fee ≤ plan.quote.minNetOut) := by
  obtain ⟨hlost, hfound⟩ := @lamportReceipt_spec signature owner details info hkeys hfee
  cases hplace : ownerPlace owner details with
  | none =>
    obtain ⟨e, herror, hunsettled⟩ := hlost hplace
    rw [herror] at hresult
    refine ⟨fun hfaithful => ?_, fun hcondition => by simp at hcondition⟩
    have hkept := hfaithful.kept e hresult
    rw [hunsettled] at hkept
    cases hkept
  | some place =>
    obtain ⟨receipt, hreceipt, hinexact, hgain, hloss⟩ := hfound (by rw [hplace]; rfl)
    rw [hreceipt] at hresult
    have howner : ownerGain owner details = ownerChange owner details info + info.fee := by
      simp [ownerGain, hmeta]
    constructor
    · intro hfaithful
      refine ⟨rfl, ?_⟩
      have hbounded := hfaithful.bounded hnative receipt hresult hinexact
      rw [howner] at hbounded
      by_contra hbad
      have := hloss (by omega)
      omega
    · rintro ⟨_, hsafe⟩
      refine ⟨?_, ?_, ?_⟩
      · intro e he
        rw [hresult] at he
        cases he
      · intro other hother hexact
        obtain rfl := Except.ok.inj (hresult.symm.trans hother)
        rw [hinexact] at hexact
        cases hexact
      · intro _ other hother _
        obtain rfl := Except.ok.inj (hresult.symm.trans hother)
        rw [howner]
        rcases lt_or_ge (ownerChange owner details info) 0 with hless | hmore
        · have := hloss hless
          omega
        · exact le_max_of_le_right (hgain hmore)

/-- **When a receipt is faithful**, of a transaction that the chain reports without an error:
always, except that a native output which no inner transfer accounts for must be measured by the
lamports of the owner, who must then be among the accounts of the report and must not have lost
lamports, unless the fee is below the floor. -/
theorem faithful_iff (signature : String) (owner : Pubkey) (plan : SwapPlan)
    (details : TransactionDetails)
    (herr : ∀ info, details.metadata = some info → info.err = none ∧ info.fee < 2 ^ 64)
    (hkeys : ∀ entry ∈ details.accountKeys.getD [], entry.key.isSome = true) :
    Faithful signature owner plan details ↔
      ∀ info, details.metadata = some info → plan.outputIsNative = true → Unpaid plan info →
        (ownerPlace owner details).isSome = true ∧
          (0 ≤ ownerChange owner details info ∨ info.fee ≤ plan.quote.minNetOut) := by
  cases hmeta : details.metadata with
  | none =>
    have hresult : receiptFromTransaction signature owner plan details =
        .ok ⟨plan.quote.minNetOut, false, 0, details.slot⟩ := by
      simp [receiptFromTransaction, hmeta]
    refine ⟨fun _ info hinfo => by simp at hinfo, fun _ => ⟨?_, ?_, ?_⟩⟩
    · intro e he
      rw [hresult] at he
      cases he
    · intro receipt hreceipt hexact
      obtain rfl := Except.ok.inj (hresult.symm.trans hreceipt)
      cases hexact
    · intro _ receipt hreceipt _
      obtain rfl := Except.ok.inj (hresult.symm.trans hreceipt)
      exact le_max_left _ _
  | some info =>
    obtain ⟨hnone, hfee⟩ := herr info hmeta
    simp only [Option.some.injEq, forall_eq']
    cases hnative : plan.outputIsNative with
    | false =>
      exact ⟨fun _ hnative => by simp at hnative, fun _ => faithful_of_token hmeta hnone hnative⟩
    | true =>
      obtain ⟨hunpaid, hpaid⟩ := nativeReceipt_spec signature owner plan details info
      have hresult : receiptFromTransaction signature owner plan details =
          nativeReceipt signature owner plan details info := by
        simp [receiptFromTransaction, hmeta, hnone, hnative]
      by_cases hfloor : Unpaid plan info
      · rw [hunpaid hfloor] at hresult
        rw [faithful_of_estimate_iff hmeta hfee hkeys hnative hresult]
        exact ⟨fun hsafe _ _ => hsafe, fun hcondition => hcondition rfl hfloor⟩
      · obtain ⟨receipt, hreceipt, hexact, hcovers⟩ := hpaid hfloor
        rw [hreceipt] at hresult
        refine ⟨fun _ _ hopen => absurd hopen hfloor, fun _ => ⟨?_, ?_, ?_⟩⟩
        · intro e he
          rw [hresult] at he
          cases he
        · intro other hother _
          obtain rfl := Except.ok.inj (hresult.symm.trans hother)
          exact hcovers
        · intro _ other hother hinexact
          obtain rfl := Except.ok.inj (hresult.symm.trans hother)
          rw [hexact] at hinexact
          cases hinexact

/-- A sell for native SOL with a floor of 900 lamports. -/
def nativePlan : SwapPlan where
  instructions := []
  venueComputeUnits := 200000
  inputAccount := "input"
  outputAccount := "wsol"
  outputIsNative := true
  quote := ⟨"pool", "program", "mint", "So11111111111111111111111111111111111111112", 5000, 5000,
    1000, 900, 1000,
    900, ⟨.output, 0, none, none, 9⟩, 0, none, 1000⟩

/-- A report of the sell that names the owner, and no transfer to the output account. -/
def nativeReport (accountKeys : Option (List AccountKey)) (before after fee : ℕ) : TransactionDetails :=
  ⟨7, accountKeys, some ⟨none, [before, 0], [after, 0], none, none, fee, none⟩⟩

/-- The owner has gained what the pool has paid, less the fee. -/
theorem faithful_iff_gained :
    Faithful "signature" "owner" nativePlan
      (nativeReport (some [.object (some "owner"), .text "pool"]) 10000 10400 500) :=
  (faithful_iff "signature" "owner" nativePlan
    (nativeReport (some [.object (some "owner"), .text "pool"]) 10000 10400 500)
    (by simp [nativeReport]) (by simp [nativeReport, AccountKey.key])).mpr (by
      intro info hinfo _ _
      obtain rfl := Option.some.inj hinfo
      decide +kernel)

/-- Without the account keys a confirmed sell is an error that reads as if nothing had happened; and
where the fee is more than the pool has paid, the fee is reported as received. -/
theorem not_faithful :
    ¬Faithful "signature" "owner" nativePlan (nativeReport none 10000 10400 500) ∧
      ¬Faithful "signature" "owner" nativePlan
        (nativeReport (some [.text "owner", .text "pool"]) 10000 5900 5000) := by
  constructor
  · intro hfaithful
    have hkept := hfaithful.kept (.transactionFailed "signature"
      ("the owner account could not be located in the transaction's own account " ++
        "keys, so the native-SOL lamport delta cannot be attributed")) rfl
    cases hkept
  · intro hfaithful
    have hbounded := hfaithful.bounded rfl ⟨5000, false, 5000, 7⟩ (by decide +kernel) rfl
    exact absurd hbounded (by decide +kernel)

end Dripline.Swaps
