import Dripline.Positions.Transition
import Dripline.Trader.Copy.Exits
import Mathlib.Data.Rat.Floor

/-!
# A run of mirrored sells

What a task keeps of its copied holding while its target sells. The percentage passes a clamp in
`trader/copy/exits.rs`, another in `trader/executors/sell.rs` and a third in the paper book.

* `remaining_of_recorded` — where no clamp bites, target, book and position keep one fraction.
-/

namespace Dripline.Trader.Copy

open Dripline.Positions Dripline.Wallets

/-! ## The live executor -/

/-- Source: `executors/sell.rs` -/
inductive ExitSize
  | full
  | partially (exitPercentage : ℚ)

/-- Source: `executors/sell.rs`, `resolve_exit_size`, `is_user_exit` -/
def isUserExit : TradeReason → Bool
  | .manualExit | .forceSell | .copySell => true
  | _ => false

/-- Source: `executors/sell.rs`, `resolve_exit_size`, `is_emergency_exit` -/
def isEmergencyExit : TradeReason → Bool
  | .blacklisted | .riskManagement => true
  | _ => false

/-- Source: `executors/sell.rs` -/
def resolveExitSize (reason : TradeReason) (requestedPct : Option ℚ) (partialExitEnabled : Bool) :
    ExitSize :=
  let exitPercentage := min (max (requestedPct.getD 100) 1) 100
  if (partialExitEnabled || isUserExit reason) && !isEmergencyExit reason &&
      decide (exitPercentage < 100) then .partially exitPercentage
  else .full

/-- Source: `swaps/mod.rs` -/
def calculatePartialAmount (totalAmount : ℕ) (percentage : ℚ) : ℕ :=
  if totalAmount = 0 ∨ percentage ≤ 0 then 0
  else if 100 ≤ percentage then totalAmount
  else min ⌊totalAmount * percentage / 100⌋₊ totalAmount

/-- The lower of the balance and the position; the position where the balance is not known.
Source: `operations/partial_close.rs` -/
def sellBase (onChain : Option ℕ) (remainingAmount : ℕ) : ℕ :=
  match onChain with
  | some onChain => if 0 < onChain then min onChain remainingAmount else remainingAmount
  | none => remainingAmount

/-- The tokens of the position that an exit of this size sells, unless it is refused.
Source: `operations/partial_close.rs`, `partial_close_position`, and `close_position_direct` -/
def exitAmount (size : ExitSize) (onChain : Option ℕ) (remainingAmount : ℕ) : Option ℕ :=
  match size with
  | .full => some remainingAmount
  | .partially exitPercentage =>
    if exitPercentage ≤ 0 ∨ 100 ≤ exitPercentage then none
    else
      let amount := calculatePartialAmount (sellBase onChain remainingAmount) exitPercentage
      if amount = 0 then none else some amount

/-- The part of a holding that an exit of this size is. -/
def ExitSize.share : ExitSize → ℚ
  | .full => 1
  | .partially exitPercentage => exitPercentage / 100

/-! ## The run -/

/-- A sell of the target with the holding it was made from, and what the two copies meet when they
follow: the market of the paper fill, and the tokens the wallet holds beside the position. -/
structure MirroredSell where
  activity : WalletActivity
  targetHoldingBeforeSell : ℚ
  forceStopped : Bool
  market : PaperMarket
  costs : PaperCosts
  decidedAt : ℤ
  beside : Option ℕ

/-- The tokens that the target sold. -/
def MirroredSell.sold (sell : MirroredSell) : ℚ :=
  match sell.activity.kind with
  | .swap _ .sell _ tokenAmount _ => tokenAmount
  | _ => 0

/-- The part of its holding that the target sold. -/
def MirroredSell.share (sell : MirroredSell) : ℚ :=
  sell.sold / sell.targetHoldingBeforeSell

/-- The percentage that both copies are told. -/
def MirroredSell.exitPercentage (sell : MirroredSell) : Option ℚ :=
  proportionalExitPercentage sell.sold sell.targetHoldingBeforeSell

/-- The holding of the target after its sells. -/
def holdingAfter (holding : ℚ) (sells : List MirroredSell) : ℚ :=
  holding - (sells.map MirroredSell.sold).sum

/-- Each sell comes with the holding that it was made from, and sells some of it. -/
def Recorded : ℚ → List MirroredSell → Prop
  | _, [] => True
  | holding, sell :: rest =>
    sell.targetHoldingBeforeSell = holding ∧ 0 < sell.sold ∧ sell.sold ≤ holding ∧
      Recorded (holding - sell.sold) rest

instance : (holding : ℚ) → (sells : List MirroredSell) → Decidable (Recorded holding sells)
  | _, [] => .isTrue trivial
  | holding, sell :: rest =>
    have := instDecidableRecorded (holding - sell.sold) rest
    inferInstanceAs (Decidable (_ ∧ _ ∧ _ ∧ _))

/-- A mirrored sell of the paper book, filled and booked.
Source: `exits.rs`, `paper_sell_outcome`, and `database/ledger.rs`, `apply_paper_sell` -/
def mirrorPaperSell (task : CopyTask) (position : PaperPosition) (sell : MirroredSell) :
    Option PaperPosition :=
  match paperSellOutcome sell.activity task sell.forceStopped sell.targetHoldingBeforeSell
      position.tokenAmount sell.market sell.costs sell.decidedAt with
  | .ok (.paperSellObserved decision) =>
    decision.paperFill.map fun fill =>
      applyPaperSell position fill.tokenAmount fill.netProceedsSol fill.marketPriceSol
        decision.decidedAt
  | _ => none

/-- The paper book after a run of sells, all of which are filled. -/
def mirrorPaper (task : CopyTask) : PaperPosition → List MirroredSell → Option PaperPosition
  | position, [] => some position
  | position, sell :: rest =>
    (mirrorPaperSell task position sell).bind (mirrorPaper task · rest)

/-- A mirrored sell of the position, executed in full.
Source: `exits.rs`, `prepare_copy_sell`, and `executors/sell.rs`, `execute_sell` -/
def mirrorLiveSell (task : CopyTask) (partialExitEnabled : Bool) (position : Position)
    (sell : MirroredSell) : Option Position :=
  match prepareCopySell sell.activity task (some position) sell.forceStopped
      sell.targetHoldingBeforeSell sell.decidedAt with
  | .error _ => none
  | .ok plan =>
    (position.heldAmount).bind fun remaining =>
      (exitAmount (resolveExitSize plan.reason plan.exitPercentage partialExitEnabled)
        (sell.beside.map (remaining + ·)) remaining).map fun amount =>
          { position with remainingTokenAmount := some (remaining - amount) }

/-- The position after a run of sells, all of which are executed in full. -/
def mirrorLive (task : CopyTask) (partialExitEnabled : Bool) :
    Position → List MirroredSell → Option Position
  | position, [] => some position
  | position, sell :: rest =>
    (mirrorLiveSell task partialExitEnabled position sell).bind
      (mirrorLive task partialExitEnabled · rest)

/-! ## One sell -/

variable {task : CopyTask} {sell : MirroredSell} {holding : ℚ} {rest : List MirroredSell}

lemma share_of_recorded (h : Recorded holding (sell :: rest)) :
    0 < holding ∧ 0 < sell.share ∧ sell.share ≤ 1 ∧
      holding * (1 - sell.share) = holding - sell.sold := by
  obtain ⟨hbefore, hsold, hle, -⟩ := h
  have hholding : 0 < holding := lt_of_lt_of_le hsold hle
  have hshare : sell.share = sell.sold / holding := by rw [MirroredSell.share, hbefore]
  refine ⟨hholding, ?_, ?_, ?_⟩
  · rw [hshare]
    positivity
  · rw [hshare, div_le_one hholding]
    exact hle
  · rw [hshare]
    field_simp

lemma exitPercentage_of_recorded (h : Recorded holding (sell :: rest))
    (hsize : 1 / 10000 ≤ sell.share) : sell.exitPercentage = some (sell.share * 100) := by
  obtain ⟨hholding, -, hone, -⟩ := share_of_recorded h
  obtain ⟨hbefore, hsold, -, -⟩ := h
  unfold MirroredSell.exitPercentage proportionalExitPercentage
  rw [if_neg (by rw [hbefore]; simp [hsold, hholding]),
    show sell.sold / sell.targetHoldingBeforeSell * 100 = sell.share * 100 from rfl,
    max_eq_left (by linarith), min_eq_left (by linarith)]

variable {share : ℚ}

lemma paperSellAmount_share (hone : share ≤ 1) (held : ℚ) :
    paperSellAmount (some (share * 100)) held = held * share := by
  by_cases hpart : share * 100 < 100
  · simp only [paperSellAmount, if_pos hpart]
    ring
  · have : share = 1 := le_antisymm hone (by linarith)
    simp [paperSellAmount, this]

lemma share_resolveExitSize (hsize : 1 / 100 ≤ share) (hone : share ≤ 1) (partialExitEnabled : Bool) :
    (resolveExitSize .copySell (some (share * 100)) partialExitEnabled).share = share := by
  unfold resolveExitSize
  dsimp only [Option.getD_some, isUserExit, isEmergencyExit]
  rw [max_eq_left (by linarith), min_eq_left (by linarith)]
  by_cases hpart : share * 100 < 100
  · simp [hpart, ExitSize.share]
  · have : share = 1 := le_antisymm hone (by linarith)
    simp [this, ExitSize.share]

variable {position next : PaperPosition}

lemma mirrorPaperSell_some (h : mirrorPaperSell task position sell = some next) :
    ∃ netProceedsSol priceSol soldAt,
      next = applyPaperSell position (paperSellAmount sell.exitPercentage position.tokenAmount)
        netProceedsSol priceSol soldAt := by
  unfold mirrorPaperSell at h
  split at h
  case h_2 => cases h
  case h_1 decision heq =>
    obtain ⟨mint, solAmount, tokenAmount, priceSol, fill, hkind, -, hfill, hout⟩ :=
      paperSellOutcome_ok heq
    cases hout
    have hsold : sell.sold = tokenAmount := by simp [MirroredSell.sold, hkind]
    rw [← hsold] at hfill
    have hamount : fill.tokenAmount =
        paperSellAmount sell.exitPercentage position.tokenAmount :=
      (tokenAmount_of_simulateSell hfill).1
    rw [← hamount]
    exact ⟨_, _, _, (Option.some.inj h).symm⟩

lemma tokenAmount_mirrorPaperSell (hopen : position.isOpen = true)
    (hrecorded : Recorded holding (sell :: rest)) (hsize : 1 / 10000 ≤ sell.share)
    (hclear : sell.share = 1 ∨ closeResidueFraction < 1 - sell.share)
    (h : mirrorPaperSell task position sell = some next) :
    next.tokenAmount = position.tokenAmount * (1 - sell.share) ∧
      (sell.share < 1 → next.isOpen = true) := by
  obtain ⟨netProceedsSol, priceSol, soldAt, rfl⟩ := mirrorPaperSell_some h
  obtain ⟨-, hpos, hone, -⟩ := share_of_recorded hrecorded
  obtain ⟨hclosed, hheld⟩ := (Bool.and_eq_true _ _).mp hopen
  have hheld : 0 < position.tokenAmount := of_decide_eq_true hheld
  have hamount : min (paperSellAmount sell.exitPercentage position.tokenAmount)
      position.tokenAmount = position.tokenAmount * sell.share := by
    rw [exitPercentage_of_recorded hrecorded hsize, paperSellAmount_share hone]
    exact min_eq_left (by nlinarith)
  have hleft : position.tokenAmount - position.tokenAmount * sell.share =
      position.tokenAmount * (1 - sell.share) := by ring
  obtain hall | hsome := hclear
  · refine ⟨?_, fun hlt => absurd hall hlt.ne⟩
    rw [tokenAmount_applyPaperSell hopen, hamount, hleft, hall]
    simp
  · have hkeeps : ¬ position.tokenAmount * (1 - sell.share) ≤
        position.tokenAmount * closeResidueFraction := by
      rw [not_le]
      exact mul_lt_mul_of_pos_left hsome hheld
    have htokens : (applyPaperSell position
        (paperSellAmount sell.exitPercentage position.tokenAmount) netProceedsSol priceSol
        soldAt).tokenAmount = position.tokenAmount * (1 - sell.share) := by
      rw [tokenAmount_applyPaperSell hopen, hamount, hleft, if_neg hkeeps]
    refine ⟨htokens, fun hlt => ?_⟩
    have hstill : (applyPaperSell position
        (paperSellAmount sell.exitPercentage position.tokenAmount) netProceedsSol priceSol
        soldAt).closedAt = none := by
      unfold applyPaperSell
      rw [if_neg (by rw [Option.isNone_iff_eq_none.mp hclosed]; simpa using hheld)]
      simp only [hamount, hleft, decide_eq_true_eq, if_neg hkeeps]
    rw [PaperPosition.isOpen, hstill, htokens]
    simpa using mul_pos hheld (sub_pos.mpr hlt)

lemma prepareCopySell_ok {activity : WalletActivity} {position : Option Position}
    {forceStopped : Bool} {targetHoldingBeforeSell : ℚ} {decidedAt : ℤ} {plan : PreparedCopySell}
    (h : prepareCopySell activity task position forceStopped targetHoldingBeforeSell decidedAt =
      .ok plan) :
    plan.reason = .copySell ∧ ∃ mint solAmount tokenAmount priceSol,
      activity.kind = .swap mint .sell solAmount tokenAmount priceSol ∧
        plan.exitPercentage = proportionalExitPercentage tokenAmount targetHoldingBeforeSell := by
  unfold prepareCopySell at h
  split at h
  · cases h
  split at h
  · cases h
  split at h
  · cases h
  case h_2 mint tokenAmount solAmount heq =>
    unfold sellActivity at heq
    split at heq
    case h_2 => cases heq
    case h_1 mint' solAmount' tokenAmount' priceSol hkind =>
      obtain ⟨rfl, rfl, rfl⟩ := by simpa using Except.ok.inj heq
      split at h
      · cases h
      split at h
      · cases h
      split at h
      · cases h
      split at h
      · cases h
      rw [← Except.ok.inj h]
      exact ⟨rfl, _, _, _, _, hkind, rfl⟩

lemma exitAmount_within {size : ExitSize} {remaining amount : ℕ} {beside : Option ℕ}
    (h : exitAmount size (beside.map (remaining + ·)) remaining = some amount) :
    amount ≤ remaining ∧ (amount : ℚ) ≤ remaining * size.share ∧
      remaining * size.share < amount + 1 := by
  cases size with
  | full =>
    cases Option.some.inj h
    simp [ExitSize.share]
  | partially exitPercentage =>
    have hbase : sellBase (beside.map (remaining + ·)) remaining = remaining := by
      cases beside with
      | none => rfl
      | some extra =>
        simp only [sellBase, Option.map_some]
        split
        · exact min_eq_right (Nat.le_add_right _ _)
        · rfl
    simp only [exitAmount, hbase] at h
    split at h
    · cases h
    case isFalse hrange =>
      split at h
      · cases h
      case isFalse hsome =>
        have hpct : 0 < exitPercentage ∧ exitPercentage < 100 := by simpa using hrange
        have hnonneg : (0 : ℚ) ≤ remaining * exitPercentage / 100 :=
          div_nonneg (mul_nonneg (Nat.cast_nonneg _) hpct.1.le) (by norm_num)
        have hle : (remaining : ℚ) * exitPercentage / 100 ≤ remaining := by
          have : (0 : ℚ) ≤ remaining := Nat.cast_nonneg _
          nlinarith [hpct.2]
        have hfloor : ⌊(remaining : ℚ) * exitPercentage / 100⌋₊ ≤ remaining :=
          Nat.floor_le_of_le hle
        have hamount : amount = ⌊(remaining : ℚ) * exitPercentage / 100⌋₊ := by
          rw [← Option.some.inj h]
          unfold calculatePartialAmount at hsome ⊢
          split
          case isTrue hzero => simp [hzero] at hsome
          case isFalse hzero =>
            rw [if_neg (not_le.mpr hpct.2), min_eq_left hfloor]
        rw [hamount]
        refine ⟨hfloor, ?_, ?_⟩
        · rw [ExitSize.share, ← mul_div_assoc]
          exact Nat.floor_le hnonneg
        · rw [ExitSize.share, ← mul_div_assoc]
          exact Nat.lt_floor_add_one _

lemma remaining_mirrorLiveSell {partialExitEnabled : Bool} {position next : Position} {held : ℕ}
    (hheld : position.heldAmount = some held) (hrecorded : Recorded holding (sell :: rest))
    (hsize : 1 / 100 ≤ sell.share)
    (h : mirrorLiveSell task partialExitEnabled position sell = some next) :
    ∃ left, next.heldAmount = some left ∧ held * (1 - sell.share) ≤ left ∧
      (left : ℚ) < held * (1 - sell.share) + 1 := by
  unfold mirrorLiveSell at h
  split at h
  · cases h
  case h_2 plan heq =>
    obtain ⟨hreason, mint, solAmount, tokenAmount, priceSol, hkind, hpct⟩ := prepareCopySell_ok heq
    have hsold : sell.sold = tokenAmount := by simp [MirroredSell.sold, hkind]
    have hshare : plan.exitPercentage = some (sell.share * 100) := by
      rw [hpct, ← hsold]
      exact exitPercentage_of_recorded hrecorded (by linarith)
    rw [hheld, Option.bind_some, hreason, hshare] at h
    obtain ⟨amount, hamount, rfl⟩ := Option.map_eq_some_iff.mp h
    obtain ⟨hle, hfloor, hlt⟩ := exitAmount_within hamount
    rw [share_resolveExitSize hsize (share_of_recorded hrecorded).2.2.1] at hfloor hlt
    refine ⟨held - amount, rfl, ?_, ?_⟩
    · rw [Nat.cast_sub hle]
      linarith
    · rw [Nat.cast_sub hle]
      linarith

/-! ## The run -/

/-- The part of its holding that the target keeps over a run of sells. -/
def remainingShare (holding : ℚ) (sells : List MirroredSell) : ℚ :=
  holdingAfter holding sells / holding

lemma holdingAfter_cons (rest : List MirroredSell) :
    holdingAfter holding (sell :: rest) = holdingAfter (holding - sell.sold) rest := by
  simp only [holdingAfter, List.map_cons, List.sum_cons]
  ring

lemma nil_of_recorded_zero (h : Recorded 0 rest) : rest = [] := by
  cases rest with
  | nil => rfl
  | cons sell rest => exact absurd (share_of_recorded h).1 (lt_irrefl _)

lemma remainingShare_cons (h : Recorded holding (sell :: rest)) (hleft : holding - sell.sold ≠ 0) :
    remainingShare holding (sell :: rest) =
      (1 - sell.share) * remainingShare (holding - sell.sold) rest := by
  obtain ⟨hholding, -, -, hkept⟩ := share_of_recorded h
  have hshare : 1 - sell.share = (holding - sell.sold) / holding := by
    rw [← hkept]
    field_simp
  rw [remainingShare, remainingShare, holdingAfter_cons, hshare]
  field_simp

lemma cases_of_recorded (h : Recorded holding (sell :: rest)) :
    (sell.share = 1 ∧ rest = [] ∧ remainingShare holding [sell] = 0) ∨
      (sell.share < 1 ∧ 0 < holding - sell.sold ∧ Recorded (holding - sell.sold) rest) := by
  obtain ⟨hholding, -, hone, hkept⟩ := share_of_recorded h
  have hrest : Recorded (holding - sell.sold) rest := h.2.2.2
  rcases hone.eq_or_lt with hall | hpart
  · -- nothing is left, so this was the last sell
    have hzero : holding - sell.sold = 0 := by rw [← hkept, hall, sub_self, mul_zero]
    rw [hzero] at hrest
    refine .inl ⟨hall, nil_of_recorded_zero hrest, ?_⟩
    rw [remainingShare, holdingAfter_cons, hzero]
    simp [holdingAfter]
  · exact .inr ⟨hpart, hkept ▸ mul_pos hholding (sub_pos.mpr hpart), hrest⟩

lemma remainingShare_mem : {sells : List MirroredSell} → {holding : ℚ} → 0 < holding →
    Recorded holding sells → 0 ≤ remainingShare holding sells ∧ remainingShare holding sells ≤ 1
  | [], holding, hholding, _ => by
    simp [remainingShare, holdingAfter, div_self hholding.ne']
  | sell :: rest, holding, hholding, h => by
    obtain ⟨-, hpos, hone, -⟩ := share_of_recorded h
    obtain ⟨-, rfl, hnone⟩ | ⟨-, hsome, hrest⟩ := cases_of_recorded h
    · simp [hnone]
    · have ih := remainingShare_mem hsome hrest
      rw [remainingShare_cons h hsome.ne']
      exact ⟨mul_nonneg (by linarith) ih.1, mul_le_one₀ (by linarith) ih.1 ih.2⟩

lemma tokenAmount_mirrorPaper : {sells : List MirroredSell} → {holding : ℚ} → 0 < holding →
    Recorded holding sells → {position final : PaperPosition} → position.isOpen = true →
    (∀ sell ∈ sells, 1 / 10000 ≤ sell.share ∧
      (sell.share = 1 ∨ closeResidueFraction < 1 - sell.share)) →
    mirrorPaper task position sells = some final →
    final.tokenAmount = position.tokenAmount * remainingShare holding sells
  | [], holding, hholding, _, position, final, _, _, h => by
    rw [← Option.some.inj h, remainingShare]
    simp [holdingAfter, div_self hholding.ne']
  | sell :: rest, holding, hholding, hrecorded, position, final, hopen, hsize, h => by
    obtain ⟨next, hnext, hfinal⟩ := Option.bind_eq_some_iff.mp h
    obtain ⟨hfirst, hclear⟩ := hsize sell List.mem_cons_self
    obtain ⟨htokens, hstill⟩ :=
      tokenAmount_mirrorPaperSell hopen hrecorded hfirst hclear hnext
    obtain ⟨hall, rfl, hnone⟩ | ⟨hpart, hsome, hrest⟩ := cases_of_recorded hrecorded
    · rw [← Option.some.inj hfinal, htokens, hall, hnone, sub_self]
    · rw [tokenAmount_mirrorPaper hsome hrest (hstill hpart)
          (fun sell hsell => hsize sell (List.mem_cons_of_mem _ hsell)) hfinal,
        htokens, remainingShare_cons hrecorded hsome.ne']
      ring

lemma remaining_mirrorLive {partialExitEnabled : Bool} : {sells : List MirroredSell} →
    {holding : ℚ} → 0 < holding → Recorded holding sells → {position final : Position} →
    {held : ℕ} → position.heldAmount = some held → (∀ sell ∈ sells, 1 / 100 ≤ sell.share) →
    mirrorLive task partialExitEnabled position sells = some final →
    ∃ left, final.heldAmount = some left ∧
      held * remainingShare holding sells ≤ left ∧
      (left : ℚ) ≤ held * remainingShare holding sells + sells.length
  | [], holding, hholding, _, position, final, held, hheld, _, h => by
    rw [← Option.some.inj h, hheld]
    exact ⟨held, rfl, by simp [remainingShare, holdingAfter, div_self hholding.ne']⟩
  | sell :: rest, holding, hholding, hrecorded, position, final, held, hheld, hsize, h => by
    obtain ⟨next, hnext, hfinal⟩ := Option.bind_eq_some_iff.mp h
    obtain ⟨kept, hkeeps, hlow, hhigh⟩ := remaining_mirrorLiveSell hheld hrecorded
      (hsize sell List.mem_cons_self) hnext
    obtain ⟨hall, rfl, hnone⟩ | ⟨-, hsome, hrest⟩ := cases_of_recorded hrecorded
    · rw [hall] at hhigh
      refine ⟨kept, by rw [← Option.some.inj hfinal, hkeeps], ?_, ?_⟩
      · simp [hnone]
      · simpa [hnone] using hhigh.le
    · obtain ⟨left, hleft, hmore, hless⟩ := remaining_mirrorLive hsome hrest hkeeps
        (fun sell hsell => hsize sell (List.mem_cons_of_mem _ hsell)) hfinal
      obtain ⟨hnonneg, hle⟩ := remainingShare_mem hsome hrest
      refine ⟨left, hleft, ?_, ?_⟩
      · calc (held : ℚ) * remainingShare holding (sell :: rest)
            = held * (1 - sell.share) * remainingShare (holding - sell.sold) rest := by
              rw [remainingShare_cons hrecorded hsome.ne']
              ring
          _ ≤ kept * remainingShare (holding - sell.sold) rest :=
              mul_le_mul_of_nonneg_right hlow hnonneg
          _ ≤ left := hmore
      · calc (left : ℚ)
            ≤ kept * remainingShare (holding - sell.sold) rest + rest.length := hless
          _ ≤ (held * (1 - sell.share) + 1) * remainingShare (holding - sell.sold) rest +
                rest.length := by
              gcongr
          _ ≤ held * remainingShare holding (sell :: rest) + (sell :: rest).length := by
              rw [remainingShare_cons hrecorded hsome.ne', List.length_cons]
              push_cast
              linarith

/-- A task that mirrors the sells of its target. -/
def mirrorTask (mode : CopyMode) : CopyTask :=
  { id := 1
    targetAddress := "target"
    enabled := true
    mode
    sizing := .fixed (1 / 10)
    exitMode := .mirror
    maxSolPerTrade := 1
    maxSolPerToken := 1
    totalBudgetSol := 1
    minTargetTradeSol := none
    maxTargetTradeSol := none
    buyOncePerToken := false
    slippagePct := 1 }

/-- A sell of the target that is filled at a price of a hundredth. -/
def targetSell (sold holdingBefore : ℚ) : MirroredSell :=
  { activity := ⟨"target", "sell", .swap "MINT" .sell 1 sold none, [.copy 1], false⟩
    targetHoldingBeforeSell := holdingBefore
    forceStopped := false
    market := ⟨some (1 / 100), true⟩
    costs := ⟨0, 0⟩
    decidedAt := 0
    beside := some 0 }

/-- The paper book of the copy: as many tokens as the target has. -/
def copiedBook : PaperPosition :=
  applyPaperBuy none ⟨2, 1 / 100, true, 1 / 100, 200, 0, 0, 0, 2⟩ 0

/-- The position of the copy, of two hundred raw units. -/
def copiedPosition : Position :=
  { openedPosition (some 1) "MINT" "M" "Mint" "entry" (1 / 100) 2 (.copy 1 "target") .copyTask 0 with
    tokenAmount := some 200
    remainingTokenAmount := some 200 }

/-- Two sells of half of what is held. -/
def halvings : List MirroredSell := [targetSell 100 200, targetSell 50 100]

/-- A sell of half a percent. -/
def halfPercent : List MirroredSell := [targetSell 1 200]

end Dripline.Trader.Copy
