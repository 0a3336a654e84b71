import Dripline.Found.Handover
import Dripline.Swaps.Charges

/-!
# Lamports in accounts of third parties

What `swaps/cost_guard.rs` is for: the lamports of the wallet that a run leaves in accounts which a
third-party program then owns.

* `costComplete_iff` — when the lamports that stay are the lamports that are charged.
-/

namespace Dripline.Swaps.CostGuard

open Dripline.Chain (systemProgramId)
open Dripline.Found.Handover List Option

/-! ## What a run does -/

/-- The owner that an instruction gives to an account. -/
def ownerGiven (account : String) : SystemInstruction → Option String
  | .createAccount _ newAccount owner _ =>
    if newAccount = some account then some (owner.getD systemProgramId) else none
  | .transfer _ _ _ => none
  | .assign assigned owner => if assigned = some account then owner else none

/-- The owner of an account after a run; without one, it is on chain what it was before. -/
def finalOwner (onChain : String → Option String) (account : String) (run : List SystemInstruction) :
    Option String :=
  run.foldl (fun owner instruction => (ownerGiven account instruction).or owner) (onChain account)

/-- The account ends owned by a third-party program. -/
def EndsThirdParty (onChain : String → Option String) (account : String)
    (run : List SystemInstruction) :
    Prop :=
  ∃ owner, finalOwner onChain account run = some owner ∧ thirdParty owner = true

/-- The lamports that the wallet sends to an account. -/
def sent (wallet account : String) (run : List SystemInstruction) : ℕ :=
  (run.map fun instruction => if pays instruction =
    some account then spends wallet instruction else 0).sum

/-- The lamports that an account sends to the wallet. -/
def returned (wallet account : String) (run : List SystemInstruction) : ℕ := sent account wallet run

/-! ## One account -/

/-- A payment of the wallet to an account: lamports that join those which wait there, lamports that
wait by themselves, and lamports that come with an owner. -/
inductive Payment
  | added (lamports : ℕ)
  | opened (lamports : ℕ)
  | placed (owner : String) (lamports : ℕ)

/-- The payment that an instruction makes to an account. -/
def paymentTo (wallet account : String) : SystemInstruction → Option Payment
  | .createAccount source newAccount owner lamports =>
    if source = some wallet ∧ newAccount = some account then
      if owner.getD systemProgramId = systemProgramId then
        if 0 < lamports then some (.opened lamports) else none
      else some (.placed (owner.getD systemProgramId) lamports)
    else none
  | .transfer source destination lamports =>
    if source = some wallet ∧ destination = some account ∧
      0 < lamports then some (.added lamports) else none
  | .assign _ _ => none

/-- The owner that an instruction assigns an account to. -/
def assignedTo (account : String) : SystemInstruction → Option String
  | .assign assigned owner => if assigned = some account then owner else none
  | _ => none

/-- The owners that a run assigns an account to, one after another. -/
def assignedOwners (account : String) (run : List SystemInstruction) : List String :=
  run.filterMap (assignedTo account)

/-- The account is owned by a third-party program on chain, before the run. -/
def thirdPartyOnChain (onChain : String → Option String) (account : String) : Bool :=
  (onChain account).any thirdParty

/-- The payments to an account that nothing behind them hands to a third-party program: a payment
that waits there is handed to the owner that the next `assign` names, or, where it waits behind
others, to one that comes later; without such an `assign` it is left to the owner on chain. -/
def overlookedFrom (wallet : String) (onChain : String → Option String) (account : String) :
    ℕ → List SystemInstruction → ℕ
  | _, [] => 0
  | waiting, instruction :: run =>
    let handedOver := fun place =>
      inGoodHands thirdParty (thirdPartyOnChain onChain account) place (assignedOwners account run)
    match paymentTo wallet account instruction with
    | some (.added lamports) =>
      (if handedOver 0 then 0 else lamports) + overlookedFrom wallet onChain account (max waiting 1) run
    | some (.opened lamports) =>
      (if handedOver waiting then 0 else lamports) +
        overlookedFrom wallet onChain account (waiting + 1) run
    | some (.placed owner lamports) =>
      (if thirdParty owner then 0 else lamports) + overlookedFrom wallet onChain account waiting run
    | none =>
      overlookedFrom wallet onChain account
        (if (assignedTo account instruction).isSome then waiting - 1 else waiting) run

/-- The payments of a whole run. -/
def overlooked (wallet : String) (onChain : String → Option String) (account : String)
    (run : List SystemInstruction) : ℕ :=
  overlookedFrom wallet onChain account 0 run

/-- The sums that wait at an account. -/
def waitingAt (account : String) (entries : List (String × ℕ)) : List ℕ :=
  (entries.filter (·.1 = account)).map (·.2)

@[simp] lemma waitingAt_nil (account : String) : waitingAt account [] = [] := rfl

lemma waitingAt_cons (account : String) (entry : String × ℕ) (entries : List (String × ℕ)) :
    waitingAt account (entry :: entries) =
      if entry.1 = account then entry.2 :: waitingAt account entries else waitingAt account
        entries := by
  by_cases h : entry.1 = account <;> simp [waitingAt, h]

lemma waitingAt_append (account : String) (entries more : List (String × ℕ)) :
    waitingAt account (entries ++ more) = waitingAt account entries ++ waitingAt account more := by
  simp [waitingAt]

lemma waitingAt_fund_self {account : String} {lamports : ℕ} {entries : List (String × ℕ)}
    (h : totalOf entries + lamports < 2 ^ 64) :
    waitingAt account (fund account lamports entries) =
      match waitingAt account entries with
      | [] => [lamports]
      | sum :: waiting => (sum + lamports) :: waiting := by
  induction entries with
  | nil => simp [fund, waitingAt_cons]
  | cons entry entries ih =>
    rw [totalOf_cons] at h
    unfold fund
    by_cases hentry : entry.1 = account
    · have hadd : saturatingAdd entry.2 lamports = entry.2 + lamports := by
        unfold saturatingAdd
        omega
      simp [waitingAt_cons, hentry, hadd]
    · rw [if_neg hentry, waitingAt_cons, waitingAt_cons, if_neg hentry, if_neg hentry]
      exact ih (by omega)

lemma waitingAt_fund_other {account other : String} (h : other ≠ account) (lamports : ℕ)
    (entries : List (String × ℕ)) :
    waitingAt account (fund other lamports entries) = waitingAt account entries := by
  induction entries with
  | nil => simp [fund, waitingAt_cons, h]
  | cons entry entries ih =>
    unfold fund
    by_cases hentry : entry.1 = other
    · have hne : entry.1 ≠ account := by rwa [hentry]
      simp [waitingAt_cons, hentry, h]
    · rw [if_neg hentry, waitingAt_cons, waitingAt_cons, ih]

lemma waitingAt_take_none {account : String} {entries : List (String × ℕ)}
    (h : take account entries = none) : waitingAt account entries = [] := by
  induction entries with
  | nil => rfl
  | cons entry entries ih =>
    unfold take at h
    split at h
    · cases h
    · rename_i hentry
      rw [waitingAt_cons, if_neg hentry]
      exact ih (map_eq_none_iff.mp h)

lemma waitingAt_take {account : String} {lamports : ℕ} {entries rest : List (String × ℕ)}
    (h : take account entries = some (lamports, rest)) :
    waitingAt account entries = lamports :: waitingAt account rest ∧
      ∀ other ≠ account, waitingAt other rest = waitingAt other entries := by
  induction entries generalizing rest with
  | nil => cases h
  | cons entry entries ih =>
    unfold take at h
    split at h
    · rename_i hentry
      obtain ⟨rfl, rfl⟩ : entry.2 = lamports ∧ entries = rest := by simpa using h
      refine ⟨by rw [waitingAt_cons, if_pos hentry], fun other hother => ?_⟩
      rw [waitingAt_cons, if_neg]
      rw [hentry]
      exact hother.symm
    · rename_i hentry
      obtain ⟨⟨taken, left⟩, htaken, h⟩ := map_eq_some_iff.mp h
      obtain ⟨rfl, rfl⟩ : taken = lamports ∧ entry :: left = rest := by simpa using h
      obtain ⟨hself, hothers⟩ := ih htaken
      refine ⟨by rw [waitingAt_cons, waitingAt_cons, if_neg hentry, if_neg hentry, hself], ?_⟩
      intro other hother
      rw [waitingAt_cons, waitingAt_cons, hothers other hother]

lemma chargedOf_chainCharges (onChain : String → Option String) (account : String)
    (unresolved : List (String × ℕ)) :
    chargedOf account (chainCharges onChain unresolved) =
      if thirdPartyOnChain onChain account then (waitingAt account unresolved).sum else 0 := by
  induction unresolved with
  | nil => simp [chainCharges, chargedOf]
  | cons entry unresolved ih =>
    have hsplit : chainCharges onChain (entry :: unresolved) =
        chainCharges onChain [entry] ++ chainCharges onChain unresolved := by
      simp [chainCharges]
    have hentry : chargedOf account (chainCharges onChain [entry]) =
        if entry.1 = account ∧ thirdPartyOnChain onChain account = true then entry.2 else 0 := by
      by_cases hsame : entry.1 = account
      · subst hsame
        cases hchain : onChain entry.1 with
        | none => simp [chainCharges, thirdPartyOnChain, hchain, chargedOf]
        | some owner => simp [chainCharges, thirdPartyOnChain, hchain, chargedOf_chargeOf]
      · cases hchain : onChain entry.1 with
        | none => simp [chainCharges, hchain, chargedOf, hsame]
        | some owner => simp [chainCharges, hchain, chargedOf_chargeOf, hsame]
    rw [hsplit, chargedOf_append, hentry, ih, waitingAt_cons]
    by_cases hsame : entry.1 = account
    · by_cases hthird : thirdPartyOnChain onChain account = true <;> simp [hsame, hthird]
    · simp [hsame]

/-- What one instruction does to the sums that wait at an account, by the payment that it makes and
the owner that it assigns: what is charged, and what waits then. -/
inductive Turn : List ℕ → Option Payment → Option String → ℕ → List ℕ → Prop
  | first (lamports) : Turn [] (some (.added lamports)) none 0 [lamports]
  | more (sum lamports waiting) :
      Turn (sum :: waiting) (some (.added lamports)) none 0 ((sum + lamports) :: waiting)
  | opened (waiting lamports) : Turn waiting (some (.opened lamports)) none 0 (waiting ++ [lamports])
  | placed (waiting owner lamports) :
      Turn waiting (some (.placed owner lamports)) none
        (if thirdParty owner then lamports else 0) waiting
  | assigned (waiting owner) :
      Turn waiting none (some owner) (if thirdParty owner then waiting.head?.getD 0 else 0) waiting.tail
  | other (waiting) : Turn waiting none none 0 waiting

lemma turn_spec (wallet : String) {account : String} (haccount : account ≠ "") (books : Books)
    (instruction : SystemInstruction) (h : totalOf books.funded + spends wallet instruction < 2 ^ 64) :
    Turn (waitingAt account books.funded) (paymentTo wallet account instruction)
      (assignedTo account instruction) (chargedOf account (chargeAt wallet books instruction))
      (waitingAt account (assessInstruction wallet books instruction).funded) := by
  cases instruction with
  | createAccount source newAccount owner lamports =>
    by_cases hsource : source = some wallet
    · subst hsource
      have hname : newAccount.getD "" = account ↔ newAccount = some account := by
        cases newAccount with
        | none => simpa using haccount.symm
        | some name => simp
      simp only [assessInstruction_create, chargeAt, paymentTo, assignedTo, ne_eq, not_true_eq_false,
        if_false, true_and, chargedOf_chargeOf, hname]
      by_cases hplain : owner.getD systemProgramId = systemProgramId
      · have hsystem : thirdParty systemProgramId = false := by simp [thirdParty]
        simp only [hplain, if_true, hsystem, Bool.false_eq_true, and_false, if_false]
        by_cases hself : newAccount = some account
        · by_cases hpos : 0 < lamports
          · simpa [hself, hpos, haccount, waitingAt_append,
              waitingAt_cons] using Turn.opened _ lamports
          · simpa [hself, hpos] using Turn.other _
        · have hother : newAccount.getD "" ≠ account := fun heq => hself (hname.mp heq)
          have hwaiting : waitingAt account (if 0 < lamports ∧ newAccount.getD "" ≠ "" then
              { books with funded := books.funded ++ [(newAccount.getD "", lamports)] } else
                books).funded =
              waitingAt account books.funded := by
            split
            · simp [waitingAt_append, waitingAt_cons, hother]
            · rfl
          rw [hwaiting, if_neg hself]
          exact Turn.other _
      · simp only [hplain, if_false, funded_settle]
        by_cases hself : newAccount = some account
        · simpa [hself] using Turn.placed _ _ lamports
        · simpa [hself] using Turn.other _
    · simp only [assessInstruction, chargeAt, paymentTo, assignedTo, hsource, ne_eq,
        not_false_eq_true, if_true, false_and, if_false]
      simpa [chargedOf] using Turn.other _
  | transfer source destination lamports =>
    simp only [assessInstruction, chargeAt, paymentTo, assignedTo, spends] at h ⊢
    have hnone : chargedOf account [] = 0 := rfl
    rw [hnone]
    by_cases hsource : source = some wallet
    · simp only [hsource, ne_eq, not_true_eq_false, if_false, if_true, true_and] at h ⊢
      cases destination with
      | none => simpa using Turn.other _
      | some destination =>
        by_cases hpos : 0 < lamports
        · simp only [if_neg hpos.ne', hpos, and_true, Option.some.injEq]
          by_cases hself : destination = account
          · subst hself
            rw [if_pos rfl, waitingAt_fund_self h]
            cases waitingAt destination books.funded with
            | nil => exact Turn.first lamports
            | cons sum waiting => exact Turn.more sum lamports waiting
          · rw [if_neg hself, waitingAt_fund_other hself]
            exact Turn.other _
        · have hzero : lamports = 0 := by omega
          simpa [hzero] using Turn.other _
    · simpa [hsource] using Turn.other _
  | assign assigned owner =>
    simp only [assessInstruction, chargeAt, paymentTo, assignedTo]
    cases assigned with
    | none => simpa [chargedOf] using Turn.other _
    | some assigned =>
      cases owner with
      | none => simpa [chargedOf] using Turn.other _
      | some owner =>
        simp only [Option.some.injEq]
        cases htake : take assigned books.funded with
        | none =>
          have hnone : chargedOf account [] = 0 := rfl
          simp only [hnone]
          by_cases hself : assigned = account
          · subst hself
            simpa [waitingAt_take_none htake] using Turn.assigned [] owner
          · simpa [hself] using Turn.other _
        | some taken =>
          obtain ⟨lamports, rest⟩ := taken
          obtain ⟨hfirst, hothers⟩ := waitingAt_take htake
          simp only [funded_settle, chargedOf_chargeOf]
          by_cases hself : assigned = account
          · subst hself
            simpa [hfirst] using Turn.assigned (lamports :: waitingAt assigned rest) owner
          · simpa [hself, hothers account (Ne.symm hself)] using Turn.other _

/-- The lamports of a payment. -/
def Payment.lamports : Payment → ℕ
  | .added lamports => lamports
  | .opened lamports => lamports
  | .placed _ lamports => lamports

lemma sent_cons (wallet account : String) (instruction : SystemInstruction)
    (run : List SystemInstruction) :
    sent wallet account (instruction :: run) =
      ((paymentTo wallet account instruction).map (·.lamports)).getD 0 + sent wallet account run := by
  have hone : (if pays instruction = some account then spends wallet instruction else 0) =
      ((paymentTo wallet account instruction).map (·.lamports)).getD 0 := by
    cases instruction with
    | createAccount source newAccount owner lamports =>
      by_cases hself : newAccount = some account
      · by_cases hsource : source = some wallet
        · simp only [pays, spends, paymentTo, hself, hsource, and_self, if_true]
          split
          · rcases Nat.eq_zero_or_pos lamports with hzero | hpos
            · simp [hzero]
            · simp [hpos, Payment.lamports]
          · simp [Payment.lamports]
        · simp [spends, paymentTo, hsource]
      · simp [pays, paymentTo, hself]
    | transfer source destination lamports =>
      by_cases hself : destination = some account
      · by_cases hsource : source = some wallet
        · rcases Nat.eq_zero_or_pos lamports with hzero | hpos
          · simp [spends, paymentTo, hzero]
          · simp [pays, spends, paymentTo, hself, hsource, hpos, Payment.lamports]
        · simp [spends, paymentTo, hsource]
      · simp [pays, paymentTo, hself]
    | assign assigned owner => simp [pays, paymentTo]
  simp only [sent, map_cons, sum_cons, hone]

lemma chargedOf_run (wallet : String) (onChain : String → Option String) {account : String}
    (haccount : account ≠ "") (books : Books) (run : List SystemInstruction)
    (h : totalOf books.byProgram + totalOf books.funded + spent wallet run < 2 ^ 64) :
    chargedOf account
          (runCharges wallet books run ++ chainCharges onChain (assessRun wallet books run).funded) +
        overlookedFrom wallet onChain account (waitingAt account books.funded).length run =
      sent wallet account run +
        handed thirdParty (thirdPartyOnChain onChain account) (waitingAt account books.funded)
          (assignedOwners account run) := by
  induction run generalizing books with
  | nil =>
    simp only [runCharges, assessRun, foldl_nil, nil_append, chargedOf_chainCharges,
      overlookedFrom, sent, map_nil, sum_nil, assignedOwners, filterMap_nil,
        handed_last]
    omega
  | cons instruction run ih =>
    simp only [spent, map_cons, sum_cons] at h
    have hturn := turn_spec wallet haccount books instruction (by omega)
    obtain ⟨_, hle⟩ := assessInstruction_total wallet books instruction (by omega)
    have hrest := ih (assessInstruction wallet books instruction) (by unfold spent; omega)
    rw [chargedOf_append] at hrest
    rw [runCharges, append_assoc, chargedOf_append, chargedOf_append, sent_cons, overlookedFrom]
    have hrun : assessRun wallet books (instruction :: run) =
        assessRun wallet (assessInstruction wallet books instruction) run := rfl
    have howners : assignedOwners account (instruction :: run) =
        (assignedTo account instruction).toList ++ assignedOwners account run := by
      unfold assignedOwners
      cases hassigned : assignedTo account instruction <;> simp [hassigned]
    rw [hrun, howners]
    generalize waitingAt account books.funded = waiting at hturn ⊢
    generalize waitingAt account (assessInstruction wallet books instruction).funded =
      next at hturn hrest
    generalize paymentTo wallet account instruction = payment at hturn ⊢
    generalize assignedTo account instruction = owner at hturn ⊢
    generalize chargedOf account (chargeAt wallet books instruction) = charged at hturn ⊢
    have hwhole : ∀ (counted : Bool) (lamports : ℕ),
        (if counted = true then lamports else 0) + (if counted = true then 0 else lamports) =
          lamports := by
      intro counted lamports
      cases counted <;> simp
    cases hturn with
    | first lamports =>
      have hjoin := handed_join thirdParty (thirdPartyOnChain onChain account) lamports []
        (assignedOwners account run)
      simp only [nil_append, handed_nil, length_nil, length_cons,
        zero_add] at hjoin hrest
      simp only [map_some, getD_some, Payment.lamports, toList_none,
        nil_append, handed_nil, length_nil, Nat.zero_max]
      linarith [hwhole (inGoodHands thirdParty (thirdPartyOnChain onChain account) 0
        (assignedOwners account run)) lamports]
    | more sum lamports waiting =>
      have hraise :=
          handed_raise thirdParty (thirdPartyOnChain onChain account) sum lamports waiting
        (assignedOwners account run)
      have hmax : max (sum :: waiting).length 1 = (sum :: waiting).length := by simp
      simp only [map_some, getD_some, Payment.lamports, toList_none,
        nil_append, hmax]
      rw [length_cons] at hrest ⊢
      linarith [hwhole (inGoodHands thirdParty (thirdPartyOnChain onChain account) 0
        (assignedOwners account run)) lamports]
    | opened waiting lamports =>
      have hjoin := handed_join thirdParty (thirdPartyOnChain onChain account) lamports waiting
        (assignedOwners account run)
      simp only [map_some, getD_some, Payment.lamports, toList_none,
        nil_append]
      rw [length_append, length_singleton] at hrest
      linarith [hwhole (inGoodHands thirdParty (thirdPartyOnChain onChain account) waiting.length
        (assignedOwners account run)) lamports]
    | placed waiting owner lamports =>
      simp only [map_some, getD_some, Payment.lamports, toList_none,
        nil_append]
      linarith [hwhole (thirdParty owner) lamports]
    | assigned waiting owner =>
      have htake := handed_take thirdParty (thirdPartyOnChain onChain account) waiting owner
        (assignedOwners account run)
      simp only [map_none, getD_none, toList_some, singleton_append,
        isSome_some, if_true]
      rw [length_tail] at hrest
      linarith
    | other waiting =>
      simp only [map_none, getD_none, toList_none, nil_append,
        isSome_none, Bool.false_eq_true, if_false]
      linarith

/-! ## The guard -/

lemma charged_add_overlooked (wallet : String) (onChain : String → Option String) {account : String}
    (haccount : account ≠ "") {run : List SystemInstruction} (h : spent wallet run < 2 ^ 64) :
    chargedOf account (charges wallet onChain run) + overlooked wallet onChain account run =
      sent wallet account run := by
  have hrun := chargedOf_run wallet onChain haccount .empty run (by simpa [Books.empty] using h)
  simpa [Books.empty, charges, overlooked] using hrun

/-- Of every account that ends owned by a third-party program, what the wallet sends to it and does
not get back is charged, and nothing else. -/
def CostComplete (wallet : String) (onChain : String → Option String)
    (run : List SystemInstruction) : Prop :=
  ∀ account ≠ "", EndsThirdParty onChain account run →
    chargedOf account (charges wallet onChain run) =
      sent wallet account run - returned wallet account run

/-- **When the guard's cost is complete.** The guard reports the sum of its charges; and these are,
account by account, the lamports that stay with third-party programs exactly where no more and no
less is overlooked than comes back: where nothing comes back, nothing may be sent to an account
behind the `assign` or the creation that gives it to its program, unless the chain knows it as such
a program's before. -/
theorem costComplete_iff (wallet : String) (parse : String → Option Pubkey)
    (getMultipleAccounts : List Pubkey → Option (List (Option Pubkey)))
    (onChain : String → Option String)
    (groups : List Group) (hfits : spent wallet (systemInstructions groups) < 2 ^ 64)
    (hparse : ∀ instruction ∈ systemInstructions groups, ∀ account, pays instruction = some account →
      parse account = some account)
    (hanswer : ∀ keys, getMultipleAccounts keys = some (keys.map onChain)) :
    (assessedCost parse getMultipleAccounts wallet groups).unrecoverableLamports =
        chargedLamports (charges wallet onChain (systemInstructions groups)) ∧
      (CostComplete wallet onChain (systemInstructions groups) ↔
        ∀ account ≠ "", EndsThirdParty onChain account (systemInstructions groups) →
          overlooked wallet onChain account (systemInstructions groups) =
            min (returned wallet account (systemInstructions groups))
              (sent wallet account (systemInstructions groups))) := by
  refine ⟨unrecoverable_eq hfits hparse hanswer, ?_⟩
  have hsum :=
      fun account (haccount : account ≠ "") => charged_add_overlooked wallet onChain haccount hfits
  constructor
  · intro hcomplete account haccount hends
    have := hcomplete account haccount hends
    have := hsum account haccount
    omega
  · intro hcondition account haccount hends
    have := hcondition account haccount hends
    have := hsum account haccount
    omega

/-! ## Two runs -/

/-- A system instruction as a node prints it. -/
def printed (kind : String) (info : Info) : Instruction :=
  ⟨some "system", some systemProgramId, some (some kind, some info)⟩

/-- The wallet sends a deposit to an account, and a program takes the account over. -/
def depositGroups : List Group :=
  [some [
    printed "transfer" ⟨some "6uodGCMLfDLfeXkyW71WpUDK1BEG19bU2EV51x2dcGMv",
      some "GVHuUhKQYx3LfoquXK9gmCmEBUM3nMaeFHuonhYASiZt", none, none, none,
      some (.number (some 13045440))⟩,
    printed "allocate" ⟨none, none, none, some "GVHuUhKQYx3LfoquXK9gmCmEBUM3nMaeFHuonhYASiZt", none,
      none⟩,
    printed "assign" ⟨none, none, none, some "GVHuUhKQYx3LfoquXK9gmCmEBUM3nMaeFHuonhYASiZt",
      some "9H6tua7jkLhdm3w8BvgpTn5LZNU7g4ZynDmCiNN3q6Rp", none⟩]]

/-- The wallet pays for an account of a program, and then sends more to it. -/
def topUpGroups : List Group :=
  [some [
    printed "createAccount" ⟨some "6uodGCMLfDLfeXkyW71WpUDK1BEG19bU2EV51x2dcGMv", none,
      some "GVHuUhKQYx3LfoquXK9gmCmEBUM3nMaeFHuonhYASiZt", none,
      some "9H6tua7jkLhdm3w8BvgpTn5LZNU7g4ZynDmCiNN3q6Rp", some (.number (some 2500000))⟩,
    printed "transfer" ⟨some "6uodGCMLfDLfeXkyW71WpUDK1BEG19bU2EV51x2dcGMv",
      some "GVHuUhKQYx3LfoquXK9gmCmEBUM3nMaeFHuonhYASiZt", none, none, none,
      some (.number (some 13045440))⟩]]

/-- The deposit is charged. -/
theorem costComplete_deposit :
    (assessedCost some (fun keys => some (keys.map fun _ => none))
        "6uodGCMLfDLfeXkyW71WpUDK1BEG19bU2EV51x2dcGMv" depositGroups).unrecoverableLamports = 13045440 ∧
      CostComplete "6uodGCMLfDLfeXkyW71WpUDK1BEG19bU2EV51x2dcGMv" (fun _ => none)
        (systemInstructions depositGroups) := by
  obtain ⟨htotal, hiff⟩ := costComplete_iff "6uodGCMLfDLfeXkyW71WpUDK1BEG19bU2EV51x2dcGMv" some
    (fun keys => some (keys.map fun _ => none)) (fun _ => none) depositGroups (by decide +kernel)
    (fun _ _ _ _ => rfl) (fun _ => rfl)
  refine ⟨htotal.trans (by decide +kernel), hiff.mpr ?_⟩
  intro account _ hends
  by_cases haccount : account = "GVHuUhKQYx3LfoquXK9gmCmEBUM3nMaeFHuonhYASiZt"
  · subst haccount
    decide +kernel
  · -- no other account is given an owner
    have hnone : finalOwner (fun _ => none) account (systemInstructions depositGroups) = none := by
      have hrun : systemInstructions depositGroups =
          [.transfer (some "6uodGCMLfDLfeXkyW71WpUDK1BEG19bU2EV51x2dcGMv")
              (some "GVHuUhKQYx3LfoquXK9gmCmEBUM3nMaeFHuonhYASiZt") 13045440,
            .assign (some "GVHuUhKQYx3LfoquXK9gmCmEBUM3nMaeFHuonhYASiZt")
              (some "9H6tua7jkLhdm3w8BvgpTn5LZNU7g4ZynDmCiNN3q6Rp")] := by
        decide +kernel
      rw [hrun]
      simp [finalOwner, ownerGiven, Ne.symm haccount]
    obtain ⟨owner, howner, _⟩ := hends
    rw [hnone] at howner
    cases howner

/-- What is sent behind the creation is not charged. -/
theorem not_costComplete :
    (assessedCost some (fun keys => some (keys.map fun _ => none))
        "6uodGCMLfDLfeXkyW71WpUDK1BEG19bU2EV51x2dcGMv" topUpGroups).unrecoverableLamports = 2500000 ∧
      sent "6uodGCMLfDLfeXkyW71WpUDK1BEG19bU2EV51x2dcGMv" "GVHuUhKQYx3LfoquXK9gmCmEBUM3nMaeFHuonhYASiZt"
        (systemInstructions topUpGroups) = 15545440 ∧
      ¬CostComplete "6uodGCMLfDLfeXkyW71WpUDK1BEG19bU2EV51x2dcGMv" (fun _ => none)
        (systemInstructions topUpGroups) := by
  refine ⟨?_, by decide +kernel, ?_⟩
  · have htotal := @unrecoverable_eq "6uodGCMLfDLfeXkyW71WpUDK1BEG19bU2EV51x2dcGMv" some
      (fun keys => some (keys.map fun _ => none)) (fun _ => none) topUpGroups (by decide +kernel)
      (fun _ _ _ _ => rfl) fun _ => rfl
    exact htotal.trans (by decide +kernel)
  · intro hcomplete
    have hcharged := hcomplete "GVHuUhKQYx3LfoquXK9gmCmEBUM3nMaeFHuonhYASiZt" (by decide)
      ⟨"9H6tua7jkLhdm3w8BvgpTn5LZNU7g4ZynDmCiNN3q6Rp", by decide +kernel, by decide +kernel⟩
    exact absurd hcharged (by decide +kernel)

end Dripline.Swaps.CostGuard
