import Dripline.Positions.Ledger.Plan
import Dripline.Positions.Ledger.Wallet

/-!
# A sync that has nothing to say

Planning again over the rows a plan has written writes nothing.

* `Reconciled`, `reconciled_reconcileOwnedPosition` — a reconciled row has nothing left to
  reconcile.
* `planPositionWrites_idempotent` — the second plan is empty, whenever it is made.
-/

namespace Dripline.Positions.Ledger

open Dripline.Transactions Dripline.Found.StableSort Dripline.Found.Keyed List

/-! ## Nothing differs from itself -/

@[simp] lemma sameMoney_self (a : ℚ) : sameMoney a a = true := by
  unfold sameMoney dust
  rw [sub_self, abs_zero]
  decide +kernel

@[simp] lemma sameOptMoney_self (a : Option ℚ) : sameOptMoney a a = true := by
  cases a with
  | none => rfl
  | some a => exact sameMoney_self a

lemma differs_self (p : Position) : differs p p = false := by
  simp [differs]

lemma differsOwned_self (p : Position) : differsOwned p p = false := by
  simp [differsOwned]

/-! ## A built row -/

section build

variable (round : LedgerRound) (metadata : RoundMetadata)

lemma entryTimeFor_some (row : Position) (now now' : DateTime) :
    entryTimeFor round (some row) now = entryTimeFor round (some row) now' := by
  unfold entryTimeFor
  cases round.openedAt.bind fromTimestamp <;> rfl

lemma buildPosition_some (row : Position) (now now' : DateTime) :
    buildPosition round metadata (some row) now = buildPosition round metadata (some row) now' := by
  unfold buildPosition
  rw [entryTimeFor_some round row now now']

lemma getD_or_some {α : Type*} (o e : Option α) (d d' : α) :
    (o.or (some ((o.or e).getD d))).getD d' = (o.or e).getD d := by
  cases o <;> rfl

lemma buildPosition_buildPosition (existing : Option Position) (now now' : DateTime)
    (i : Option ℤ) :
    buildPosition round metadata
        (some { buildPosition round metadata existing now with id := i }) now' =
      { buildPosition round metadata existing now with id := i } := by
  obtain ⟨p, hp⟩ : ∃ p, p = { buildPosition round metadata existing now with id := i } := ⟨_, rfl⟩
  have hentry : entryTimeFor round (some p) now' = p.entryTime := by
    rw [hp]
    exact getD_or_some ..
  have hexit : exitTimeFor round (some p) p.entryTime = p.exitTime := by
    rw [hp]
    simp only [buildPosition, exitTimeFor]
    cases round.closedAt.bind fromTimestamp with
    | some t => rfl
    | none =>
      cases round.isOpen with
      | true => rfl
      | false =>
        cases round.lastSeenAt.bind fromTimestamp with
        | some t => rfl
        | none => cases existing.bind (·.exitTime) <;> rfl
  have hsymbol : (metadata.symbol.or (some p.symbol)).getD (shortMint round.mint) = p.symbol := by
    rw [hp]
    exact getD_or_some ..
  have hname : (metadata.name.or (some p.name)).getD (shortMint round.mint) = p.name := by
    rw [hp]
    exact getD_or_some ..
  rw [← hp, buildPosition, hentry, hexit]
  simp only [Option.map_some, Option.bind_some, Option.getD_some, hsymbol, hname]
  rw [hp]
  rfl

end build

/-! ## A reconciled row -/

/-- A closed round whose history reconciles holds nothing. -/
def ClosedEmpty (round : LedgerRound) : Prop :=
  round.isOpen = false → round.historyComplete = true → round.balanceRaw = 0

/-- There is nothing to reconcile between a row the bot owns and its round. -/
structure Reconciled (position : Position) (round : LedgerRound) (metadata : RoundMetadata) :
    Prop where
  stamped : position.roundKey = some round.roundKey
  flagged : position.holdingState = holdingStateFor metadata.frozen round.isOpen
  notGrown : growsExternally position round = false
  notShrunk : round.isOpen = true →
    position.remainingTokenAmount.getD 0 ≤ clampRaw round.balanceRaw
  closed : round.isOpen = false → position.exitTime.isSome = true

section reconcile

variable {existing : Position} {round : LedgerRound} {metadata : RoundMetadata}
  {legs : Option TraderLegs} {now : DateTime}

variable {p : Position}

lemma growsExternally_congr {q : Position} (h : p.remainingTokenAmount = q.remainingTokenAmount) :
    growsExternally p round = growsExternally q round := by
  unfold growsExternally
  rw [h]

lemma growsExternally_of_observed (h : p.remainingTokenAmount = some (clampRaw round.balanceRaw)) :
    growsExternally p round = false := by
  simp [growsExternally, h]

lemma growOwnedPosition_remaining :
    (growOwnedPosition existing round metadata legs).remainingTokenAmount =
      if growsExternally existing round then some (clampRaw round.balanceRaw)
      else existing.remainingTokenAmount := by
  unfold growOwnedPosition
  split <;> rfl

lemma growOwnedPosition_holdingState :
    (growOwnedPosition existing round metadata legs).holdingState =
      holdingStateFor metadata.frozen round.isOpen :=
  growOwnedPosition_field existing round metadata legs (·.holdingState) fun _ => rfl

lemma growOwnedPosition_exitTime :
    (growOwnedPosition existing round metadata legs).exitTime = existing.exitTime :=
  growOwnedPosition_field existing round metadata legs (·.exitTime) fun _ => rfl

lemma growOwnedPosition_notGrown :
    growsExternally (growOwnedPosition existing round metadata legs) round = false := by
  cases hgrows : growsExternally existing round with
  | true =>
    refine growsExternally_of_observed ?_
    rw [growOwnedPosition_remaining, hgrows, if_pos rfl]
  | false =>
    rw [growsExternally_congr (q := existing)]
    · exact hgrows
    · rw [growOwnedPosition_remaining, hgrows, if_neg Bool.false_ne_true]

lemma reconcileOwnedPosition_of_reconciled (h : Reconciled existing round metadata) :
    reconcileOwnedPosition existing round metadata legs now = existing := by
  have hgrow : growOwnedPosition existing round metadata legs = existing := by
    unfold growOwnedPosition
    rw [h.notGrown, ← h.stamped, ← h.flagged]
    rfl
  unfold reconcileOwnedPosition
  rw [hgrow]
  cases hopen : round.isOpen with
  | true => simp [(h.notShrunk hopen).not_gt]
  | false => simp [h.closed hopen]

lemma reconciled_reconcileOwnedPosition
    (hclosed : ClosedEmpty round) :
    Reconciled (reconcileOwnedPosition existing round metadata legs now) round metadata := by
  have hstamped := growOwnedPosition_roundKey existing round metadata legs
  have hflagged := @growOwnedPosition_holdingState existing round metadata legs
  rcases reconcileOwnedPosition_cases existing round metadata legs now with
    ⟨heq, hnotShrunk, hexit⟩ | ⟨hopen, -, heq⟩ | ⟨hopen, -, heq⟩
  · -- the grown row
    rw [heq]
    refine ⟨hstamped, hflagged, growOwnedPosition_notGrown, fun hopen => ?_, fun hopen => ?_⟩
    · rw [growOwnedPosition_remaining]
      split
      · exact le_refl _
      · exact hnotShrunk hopen
    · rw [growOwnedPosition_exitTime]
      exact hexit hopen
  · -- the shrunk row claims what the wallet holds
    rw [heq]
    exact ⟨hstamped, hflagged, growsExternally_of_observed rfl, fun _ => le_refl _,
      fun h => absurd (hopen.symm.trans h) (by decide)⟩
  · -- the closed row claims nothing, and the round holds nothing if it reconciles
    rw [heq]
    refine ⟨hstamped, hflagged, ?_, fun h => absurd (hopen.symm.trans h) (by decide), fun _ => rfl⟩
    cases hhistory : round.historyComplete with
    | false => simp [growsExternally, hhistory]
    | true => simp [growsExternally, clampRaw, closeOwnedPosition, hclosed hopen hhistory]

lemma Reconciled.of_not_differsOwned {fresh : Position} (h : Reconciled fresh round metadata)
    (hdiff : differsOwned existing fresh = false) : Reconciled existing round metadata := by
  simp only [differsOwned, Bool.or_eq_false_iff, bne_eq_false_iff_eq] at hdiff
  obtain ⟨hrest, -⟩ := hdiff
  have hkey : existing.roundKey = fresh.roundKey := by simp_all
  have hstate : existing.holdingState = fresh.holdingState := by simp_all
  have hremaining : existing.remainingTokenAmount = fresh.remainingTokenAmount := by simp_all
  have hexit : existing.exitTime = fresh.exitTime := by simp_all
  exact ⟨hkey.trans h.stamped, hstate.trans h.flagged,
    (growsExternally_congr hremaining).trans h.notGrown,
    fun hopen => hremaining ▸ h.notShrunk hopen, fun hclosed => hexit ▸ h.closed hclosed⟩

lemma reconcileOwnedPosition_origin :
    (reconcileOwnedPosition existing round metadata legs now).origin = existing.origin := by
  rw [reconcileOwnedPosition_field _ _ _ _ _ (·.origin) (fun _ _ _ => rfl) fun _ => rfl]
  exact growOwnedPosition_field existing round metadata legs (·.origin) fun _ => rfl

end reconcile

/-! ## One round and its row, once more -/

/-- The context of a later sync. -/
def SyncContext.at (context : SyncContext) (now : DateTime) : SyncContext :=
  { context with now := now }

section write

variable {context : SyncContext} {round : LedgerRound} {row : Position}

lemma writeFor_of_reconciled (howned : row.isWalletDerived = false)
    (h : Reconciled row round ((context.metadata round.mint).getD RoundMetadata.default)) :
    writeFor context round (some row) = none := by
  rw [writeFor_owned howned, reconcileOwnedPosition_of_reconciled h, differsOwned_self]
  split <;> rfl

lemma writeFor_of_built (hderived : row.isWalletDerived = true)
    (h : differs row (buildPosition round ((context.metadata round.mint).getD RoundMetadata.default)
      (some row) context.now) = false) :
    writeFor context round (some row) = none := by
  rw [writeFor_derived hderived, h]
  rfl

variable {p : Position}

lemma writeFor_of_update (hclosed : ClosedEmpty round)
    (h : writeFor context round (some row) = some (.update p)) (now : DateTime) :
    writeFor (context.at now) round (some p) = none := by
  rcases @writeFor_some_cases context round row with hrow | ⟨howned, hrow⟩ | ⟨-, hrow⟩
  · rw [hrow] at h
    cases h
  · obtain rfl : reconcileOwnedPosition _ _ _ _ _ = p := by simpa [hrow] using h
    refine writeFor_of_reconciled ?_ (reconciled_reconcileOwnedPosition hclosed)
    unfold Position.isWalletDerived at howned ⊢
    rw [reconcileOwnedPosition_origin, howned]
  · obtain rfl : buildPosition _ _ _ _ = p := by simpa [hrow] using h
    have hagain := buildPosition_buildPosition round
      ((context.metadata round.mint).getD RoundMetadata.default) (some row) context.now now row.id
    exact writeFor_of_built rfl ((congrArg (differs _) hagain).trans (differs_self _))

lemma writeFor_of_insert (h : writeFor context round none = some (.insert p)) (i : Option ℤ)
    (now : DateTime) : writeFor (context.at now) round (some { p with id := i }) = none := by
  obtain rfl : buildPosition _ _ _ _ = p := by simpa [writeFor_none] using h
  have hagain := buildPosition_buildPosition round
    ((context.metadata round.mint).getD RoundMetadata.default) none context.now now i
  exact writeFor_of_built rfl ((congrArg (differs _) hagain).trans (differs_self _))

lemma writeFor_of_none (hclosed : ClosedEmpty round) (h : writeFor context round (some row) = none)
    (now : DateTime) : writeFor (context.at now) round (some row) = none := by
  cases hderived : row.isWalletDerived with
  | false =>
    cases hbusy : isBusy row context.busyMints with
    | true => rw [writeFor_owned hderived, SyncContext.at, hbusy, if_pos rfl]
    | false =>
      rw [writeFor_owned hderived, hbusy, if_neg Bool.false_ne_true] at h
      refine writeFor_of_reconciled hderived ?_
      have hsame : differsOwned row (reconcileOwnedPosition row round
          ((context.metadata round.mint).getD RoundMetadata.default)
          (row.id.bind context.traderLegs) context.now) = false := by
        simpa using h
      exact (reconciled_reconcileOwnedPosition hclosed).of_not_differsOwned hsame
  | true =>
    rw [writeFor_derived hderived] at h
    refine writeFor_of_built hderived ?_
    rw [buildPosition_some _ _ _ _ context.now]
    have hsame : differs row (buildPosition round
        ((context.metadata round.mint).getD RoundMetadata.default) (some row) context.now) =
          false := by
      simpa using h
    exact hsame

end write

/-! ## The second plan's claims -/

section secondPass

variable {rounds : List LedgerRound} {existing : List Position} {context : SyncContext}
  {freshIds : List ℤ}

variable {row : Position}

lemma byRoundKey_of_mem {rows : List Position} (hkeys : (rows.filterMap (·.roundKey)).Nodup)
    (hrow : row ∈ rows) {roundKey : String} (hkey : row.roundKey = some roundKey) :
    byRoundKey rows roundKey = some row := by
  cases hfind : byRoundKey rows roundKey with
  | none => exact absurd hkey (byRoundKey_eq_none.mp hfind row hrow)
  | some x =>
    obtain ⟨hx, hxkey⟩ := byRoundKey_eq_some hfind
    rw [eq_of_key hkeys hrow hx hkey hxkey]

lemma applyUpdate_of_unkeyed (hid : (existing.map (·.id)).Nodup) (hrow : row ∈ existing)
    (hkey : (applyUpdate (planPositionWrites rounds existing context) row).roundKey = none) :
    applyUpdate (planPositionWrites rounds existing context) row = row := by
  rcases applyUpdate_cases rounds context hid hrow with h | ⟨round, -, hwrite⟩
  · exact h
  · obtain ⟨-, -, -, hsome⟩ := writeFor_update hwrite
    rw [hkey] at hsome
    cases hsome

/-- The order of the candidates is transitive. -/
instance : Std.TransCmp candidateCmp := by
  unfold candidateCmp
  infer_instance

lemma candidates_applyPlan (hid : (existing.map (·.id)).Nodup) (round : LedgerRound) :
    candidates (applyPlan existing (planPositionWrites rounds existing context) freshIds) round =
      (candidates existing round).filter fun row =>
        (applyUpdate (planPositionWrites rounds existing context) row).roundKey.isNone := by
  unfold candidates
  rw [filter_flatMap]
  refine flatMap_congr ?_
  intro signature _
  unfold adoptable
  rw [filter_sortBy]
  congr 1
  unfold applyPlan
  rw [filter_append]
  refine (congrArg₂ (· ++ ·) (filter_map_of_hidden ?_ ?_) ?_).trans (append_nil _)
  · intro row hrow hkey
    exact applyUpdate_of_unkeyed hid hrow (by simpa using hkey)
  · intro row _ hkey
    simp only [hkey, Bool.false_and]
  · refine filter_eq_nil_iff.mpr ?_
    intro q hq
    obtain ⟨round', -, hkey⟩ := mem_insertedRows hq
    simp [hkey]

/-- What the two plans have claimed agrees on the rows that still carry no key. -/
def SameClaims (plan : SyncPlan) (existing : List Position) (first second : Finset ℤ) : Prop :=
  ∀ row ∈ existing, (applyUpdate plan row).roundKey = none → ∀ i, row.id = some i →
    (i ∈ second ↔ i ∈ first)

variable {second first : Finset ℤ} {round : LedgerRound}

lemma adoptRow_applyPlan (hid : (existing.map (·.id)).Nodup)
    (hsame : SameClaims (planPositionWrites rounds existing context) existing first second)
    (hadopt : adoptRow existing first round = some row)
    (hkey : (applyUpdate (planPositionWrites rounds existing context) row).roundKey = none) :
    adoptRow (applyPlan existing (planPositionWrites rounds existing context) freshIds) second
      round = some row := by
  unfold adoptRow at hadopt ⊢
  rw [candidates_applyPlan hid, List.find?_filter]
  obtain ⟨hfree, before, after, hsplit, hbefore⟩ := List.find?_eq_some_iff_append.mp hadopt
  have hsees : ∀ x ∈ candidates existing round,
      (applyUpdate (planPositionWrites rounds existing context) x).roundKey.isNone = true →
      isFree second x = isFree first x := by
    intro x hx hxkey
    obtain ⟨hmem, -, -⟩ := mem_candidates.mp hx
    unfold isFree
    cases hi : x.id with
    | none => rfl
    | some i => simp [hsame x hmem (by simpa using hxkey) i hi]
  refine List.find?_eq_some_iff_append.mpr ⟨?_, before, after, hsplit, ?_⟩
  · have hx : row ∈ candidates existing round := mem_of_find?_eq_some hadopt
    have hnone : (applyUpdate (planPositionWrites rounds existing context) row).roundKey.isNone =
        true := by simp [hkey]
    rw [hnone, hsees row hx hnone, hfree]
    rfl
  · -- whatever stands before it was claimed, or carries a key by now
    intro x hx
    have hmem : x ∈ candidates existing round := hsplit ▸ mem_append_left _ hx
    cases hnone : (applyUpdate (planPositionWrites rounds existing context) x).roundKey.isNone with
    | false => rfl
    | true => simpa [hsees x hmem hnone] using hbefore x hx

lemma byRoundKey_applyPlan (hrounds : (rounds.map (·.roundKey)).Nodup)
    (hid : (existing.map (·.id)).Nodup) (hkeys : (existing.filterMap (·.roundKey)).Nodup)
    (hrow : row ∈ existing)
    (hkey : (applyUpdate (planPositionWrites rounds existing context) row).roundKey =
      some round.roundKey) :
    byRoundKey (applyPlan existing (planPositionWrites rounds existing context) freshIds)
      round.roundKey = some (applyUpdate (planPositionWrites rounds existing context) row) := by
  refine byRoundKey_of_mem (nodup_keys_applyPlan hrounds hid hkeys freshIds) ?_ hkey
  exact mem_append_left _ (mem_map_of_mem hrow)

lemma byRoundKey_applyPlan_none (hrounds : (rounds.map (·.roundKey)).Nodup)
    (hid : (existing.map (·.id)).Nodup) (hc : (round, some row) ∈ claims existing ∅ rounds)
    (hnone : byRoundKey existing round.roundKey = none)
    (hkey : (applyUpdate (planPositionWrites rounds existing context) row).roundKey = none) :
    byRoundKey (applyPlan existing (planPositionWrites rounds existing context) freshIds)
      round.roundKey = none := by
  refine byRoundKey_eq_none.mpr ?_
  intro q hq hqkey
  rcases mem_append.mp hq with hq | hq
  · obtain ⟨y, hy, rfl⟩ := mem_map.mp hq
    rcases applyUpdate_roundKey rounds context hid hy with h | ⟨round', hc', h⟩
    · exact byRoundKey_eq_none.mp hnone y hy (h.symm.trans hqkey)
    · have hround : round'.roundKey = round.roundKey := Option.some.inj (h.symm.trans hqkey)
      cases claims_unique hrounds hc' hc hround
      rw [hkey] at hqkey
      cases hqkey
  · obtain ⟨round', hc', hq'⟩ := mem_insertedRows hq
    have hround : round'.roundKey = round.roundKey := Option.some.inj (hq'.symm.trans hqkey)
    cases claims_unique hrounds hc' hc hround

lemma applyUpdate_roundKey_of_claim (context : SyncContext)
    (hrounds : (rounds.map (·.roundKey)).Nodup) (hid : (existing.map (·.id)).Nodup)
    (hc : (round, some row) ∈ claims existing ∅ rounds) :
    (applyUpdate (planPositionWrites rounds existing context) row).roundKey = row.roundKey ∨
    (applyUpdate (planPositionWrites rounds existing context) row).roundKey =
      some round.roundKey := by
  obtain ⟨hrow, -⟩ := (of_mem_claims hc).1 row rfl
  rcases applyUpdate_roundKey rounds context hid hrow with h | ⟨round', hc', h⟩
  · exact Or.inl h
  · rw [claim_unique hid hrounds hc hc']
    exact Or.inr h

lemma byRoundKey_applyPlan_inserted (hrounds : (rounds.map (·.roundKey)).Nodup)
    (hid : (existing.map (·.id)).Nodup) (hkeys : (existing.filterMap (·.roundKey)).Nodup)
    (hfresh : (planPositionWrites rounds existing context).inserts.length ≤ freshIds.length)
    (hc : (round, none) ∈ claims existing ∅ rounds) :
    ∃ p i, writeFor context round none = some (.insert p) ∧
      byRoundKey (applyPlan existing (planPositionWrites rounds existing context) freshIds)
        round.roundKey = some { p with id := some i } := by
  obtain ⟨p, hwrite⟩ : ∃ p, writeFor context round none = some (.insert p) := ⟨_, rfl⟩
  have hp : p ∈ (planPositionWrites rounds existing context).inserts :=
    mem_filterMap.mpr ⟨.insert p, mem_filterMap.mpr ⟨_, hc, hwrite⟩, rfl⟩
  rw [← map_fst_zip hfresh] at hp
  obtain ⟨⟨p', i⟩, hzip, rfl⟩ := mem_map.mp hp
  refine ⟨p', i, hwrite, ?_⟩
  refine byRoundKey_of_mem (nodup_keys_applyPlan hrounds hid hkeys freshIds) ?_
    (writeFor_insert hwrite).2
  exact mem_append_right _ (mem_map_of_mem hzip)

lemma writeFor_applyUpdate (hrounds : (rounds.map (·.roundKey)).Nodup)
    (hid : (existing.map (·.id)).Nodup) {round : LedgerRound} {row : Position}
    (hclosed : ClosedEmpty round)
    (hsome : row.id.isSome = true) (hc : (round, some row) ∈ claims existing ∅ rounds)
    (now : DateTime) :
    writeFor (context.at now) round
      (some (applyUpdate (planPositionWrites rounds existing context) row)) = none := by
  obtain ⟨hrow, -⟩ := (of_mem_claims hc).1 row rfl
  cases hwrite : writeFor context round (some row) with
  | none =>
    rcases applyUpdate_cases rounds context hid hrow with h | ⟨round', hc', h⟩
    · rw [h]
      exact writeFor_of_none hclosed hwrite now
    · -- only the round that claims the row could have written it
      have hsame := claim_unique hid hrounds hc hc'
      subst hsame
      rw [hwrite] at h
      cases h
  | some w =>
    cases w with
    | insert p =>
      obtain ⟨hnone, -⟩ := writeFor_insert hwrite
      cases hnone
    | update p =>
      rw [applyUpdate_of_claim hrounds hid hc hsome hwrite]
      exact writeFor_of_update hclosed hwrite now

lemma currentRow_applyPlan (hrounds : (rounds.map (·.roundKey)).Nodup)
    (hid : (existing.map (·.id)).Nodup) (hkeys : (existing.filterMap (·.roundKey)).Nodup)
    (hsome : ∀ row ∈ existing, row.id.isSome = true)
    (hfresh : (planPositionWrites rounds existing context).inserts.length ≤ freshIds.length)
    (hclosed : ClosedEmpty round)
    (hc : (round, (currentRow existing first round).1) ∈ claims existing ∅ rounds)
    (hsame : SameClaims (planPositionWrites rounds existing context) existing first second)
    (now : DateTime) :
    writeFor (context.at now) round (currentRow
      (applyPlan existing (planPositionWrites rounds existing context) freshIds) second
      round).1 = none ∧
    SameClaims (planPositionWrites rounds existing context) existing
      (currentRow existing first round).2 (currentRow
        (applyPlan existing (planPositionWrites rounds existing context) freshIds) second
        round).2 := by
  rcases currentRow_cases existing first round with
    ⟨row, hkey, h⟩ | ⟨hnone, ⟨row, hadopt, h⟩ | ⟨-, h⟩⟩ <;> rw [h] at hc ⊢ <;> dsimp only at hc ⊢
  · -- found by its key, and keyed still
    obtain ⟨hrow, hrowkey⟩ := byRoundKey_eq_some hkey
    have hkey' : (applyUpdate (planPositionWrites rounds existing context) row).roundKey =
        some round.roundKey := by
      rcases applyUpdate_roundKey_of_claim context hrounds hid hc with h | h
      · exact h.trans hrowkey
      · exact h
    rw [currentRow_of_key (byRoundKey_applyPlan hrounds hid hkeys hrow hkey')]
    exact ⟨writeFor_applyUpdate hrounds hid hclosed (hsome row hrow) hc now, hsame⟩
  · obtain ⟨hrow, hmatches, -⟩ := adoptRow_eq_some hadopt
    have hwrite := @writeFor_applyUpdate rounds existing context hrounds hid round row hclosed
      (hsome row hrow) hc now
    rcases applyUpdate_roundKey_of_claim context hrounds hid hc with hkey | hkey
    · -- adopted without a write, and adopted again
      rw [hmatches.unkeyed] at hkey
      rw [applyUpdate_of_unkeyed hid hrow hkey] at hwrite
      rw [currentRow_of_adopt (byRoundKey_applyPlan_none hrounds hid hc hnone hkey)
        (adoptRow_applyPlan hid hsame hadopt hkey)]
      refine ⟨hwrite, ?_⟩
      intro y hy hykey i hi
      rw [mem_claim, mem_claim, hsame y hy hykey i hi]
    · -- adopted and stamped, and found by its key now
      rw [currentRow_of_key (byRoundKey_applyPlan hrounds hid hkeys hrow hkey)]
      refine ⟨hwrite, ?_⟩
      intro y hy hykey i hi
      rw [mem_claim, hsame y hy hykey i hi]
      refine ⟨Or.inr, fun h => h.resolve_left ?_⟩
      intro hrowid
      obtain rfl := inj_on_of_nodup_map hid hy hrow (hi.trans hrowid.symm)
      rw [hykey] at hkey
      cases hkey
  · obtain ⟨p, i, hwrite, hfound⟩ :=
      byRoundKey_applyPlan_inserted hrounds hid hkeys hfresh hc
    rw [currentRow_of_key hfound]
    exact ⟨writeFor_of_insert hwrite (some i) now, hsame⟩

lemma writeFor_claims_applyPlan (hrounds : (rounds.map (·.roundKey)).Nodup)
    (hid : (existing.map (·.id)).Nodup) (hkeys : (existing.filterMap (·.roundKey)).Nodup)
    (hsome : ∀ row ∈ existing, row.id.isSome = true)
    (hfresh : (planPositionWrites rounds existing context).inserts.length ≤ freshIds.length)
    (now : DateTime) {rest : List LedgerRound} (hclosed : ∀ round ∈ rest, ClosedEmpty round)
    (hrest : ∀ c ∈ claims existing first rest, c ∈ claims existing ∅ rounds)
    (hsame : SameClaims (planPositionWrites rounds existing context) existing first second)
    {c : LedgerRound × Option Position}
    (hc : c ∈ claims (applyPlan existing (planPositionWrites rounds existing context) freshIds)
      second rest) :
    writeFor (context.at now) c.1 c.2 = none := by
  induction rest generalizing first second with
  | nil => cases hc
  | cons round rest ih =>
    obtain ⟨hwrite, hsame'⟩ := currentRow_applyPlan hrounds hid hkeys hsome hfresh
      (hclosed round mem_cons_self) (hrest _ mem_cons_self) hsame now
    rcases mem_cons.mp hc with rfl | hc
    · exact hwrite
    · exact ih (fun r hr => hclosed r (mem_cons_of_mem _ hr))
        (fun c hc => hrest c (mem_cons_of_mem _ hc)) hsame' hc

/-- **Planning is idempotent**: the plan made again, at whatever time, over the rows a plan has
written is empty, as long as every closed round whose history reconciles holds nothing. -/
theorem planPositionWrites_idempotent (rounds : List LedgerRound) (existing : List Position)
    (context : SyncContext) (freshIds : List ℤ) (now : DateTime)
    (hrounds : (rounds.map (·.roundKey)).Nodup) (hid : (existing.map (·.id)).Nodup)
    (hsome : ∀ row ∈ existing, row.id.isSome = true)
    (hkeys : (existing.filterMap (·.roundKey)).Nodup)
    (hfresh : (planPositionWrites rounds existing context).inserts.length ≤ freshIds.length)
    (hclosed : ∀ round ∈ rounds, ClosedEmpty round) :
    (planPositionWrites rounds
      (applyPlan existing (planPositionWrites rounds existing context) freshIds)
      (context.at now)).isEmpty = true := by
  have hnone : (claims (applyPlan existing (planPositionWrites rounds existing context) freshIds) ∅
      rounds).filterMap (fun c => writeFor (context.at now) c.1 c.2) = [] := by
    refine filterMap_eq_nil_iff.mpr ?_
    intro c hc
    exact writeFor_claims_applyPlan hrounds hid hkeys hsome hfresh now hclosed (fun _ h => h)
      (fun _ _ _ _ _ => Iff.rfl) hc
  unfold planPositionWrites SyncPlan.isEmpty
  unfold planPositionWrites at hnone
  rw [hnone]
  rfl

end secondPass

/-! ## The ledger's rounds -/

lemma closedEmpty_of_mem {deltas : List SubjectAssetDelta} {holdings : List WalletHolding}
    {round : LedgerRound} (hround : round ∈ reconcileWithWallet (reduceRounds deltas) holdings) :
    ClosedEmpty round := by
  intro hclosed hhistory
  rcases mem_reconcileWithWallet.mp hround with ⟨r, hr, rfl⟩ | ⟨h, -, rfl⟩
  · obtain ⟨c, hc, rfl⟩ := mem_reduceRounds.mp hr
    have hconserves := Chapter.round_conserves (wellFormed_of_mem_chapters c hc)
    rcases reconcileRound_cases holdings c.round with ⟨h, -⟩ | ⟨-, -, -, h⟩ | ⟨-, -, -, h⟩
    · rw [h] at hclosed hhistory ⊢
      exact (hconserves hhistory).2.mp hclosed
    · rw [h] at hhistory
      cases hhistory
    · rw [h] at hhistory
      cases hhistory
  · cases hhistory

/-- A buy on chain, and the row the bot has for it. -/
theorem planPositionWrites_idempotent_bought :
    (planPositionWrites
      (reconcileWithWallet (reduceRounds [.token "open-sig" 1 "MINT" 1000000 0 1000000])
        [⟨"MINT", 400000, 6⟩])
      (applyPlan [botPosition (testOpenRound "MINT" "open-sig:MINT")]
        (planPositionWrites
          (reconcileWithWallet (reduceRounds [.token "open-sig" 1 "MINT" 1000000 0 1000000])
            [⟨"MINT", 400000, 6⟩])
          [botPosition (testOpenRound "MINT" "open-sig:MINT")] testContext) [])
      (testContext.at 1800000000000000000)).isEmpty = true :=
  planPositionWrites_idempotent _ _ _ _ _ (by decide +kernel) (by decide) (by decide) (by decide)
    (by decide +kernel) fun _ => closedEmpty_of_mem

/-- Without that, a second sync may write: a round that is closed and still holds something takes a
row of the bot from open to closed, and then grows it again. -/
theorem not_idempotent_of_closed_holding :
    ¬ ∀ (rounds : List LedgerRound) (existing : List Position) (context : SyncContext)
      (freshIds : List ℤ) (now : DateTime), context.now ≤ now →
      (rounds.map (·.roundKey)).Nodup → (existing.map (·.id)).Nodup →
      (∀ row ∈ existing, row.id.isSome = true) → (existing.filterMap (·.roundKey)).Nodup →
      freshIds.Nodup → (∀ row ∈ existing, ∀ i ∈ freshIds, row.id ≠ some i) →
      (planPositionWrites rounds existing context).inserts.length ≤ freshIds.length →
      (planPositionWrites rounds
        (applyPlan existing (planPositionWrites rounds existing context) freshIds)
        (context.at now)).isEmpty = true := by
  intro h
  have hempty := h [{ testRound "MINT" "open-sig:MINT" with balanceRaw := 5 }]
    [botPosition (testRound "MINT" "open-sig:MINT")] testContext [] testContext.now (le_refl _)
    (by decide) (by decide) (by decide) (by decide) (by decide) (by decide) (by decide +kernel)
  revert hempty
  decide +kernel

end Dripline.Positions.Ledger
