import Dripline.Positions.Ledger.Plan

/-!
# Who owns which field

What a plan may change on a row, by the row's owner.

* `planPositionWrites_ownership` — every plan keeps both, and archives nothing.
-/

namespace Dripline.Positions.Ledger

open Dripline.Found.Keyed

/-! ## What each owner keeps -/

/-- The policy, the entry and the history of a row the bot owns. -/
structure OwnedKept (row updated : Position) : Prop where
  origin : updated.origin = row.origin
  management : updated.management = row.management
  profitTargetMin : updated.profitTargetMin = row.profitTargetMin
  profitTargetMax : updated.profitTargetMax = row.profitTargetMax
  entryTime : updated.entryTime = row.entryTime
  entryPrice : updated.entryPrice = row.entryPrice
  entrySizeSol : updated.entrySizeSol = row.entrySizeSol
  entryTransactionSignature :
    updated.entryTransactionSignature = row.entryTransactionSignature
  archived : updated.archived = row.archived
  archivedAt : updated.archivedAt = row.archivedAt
  priceHighest : updated.priceHighest = row.priceHighest
  priceLowest : updated.priceLowest = row.priceLowest

/-- The identity, the archive flag and the live quotes of a row the ledger derived. -/
structure DerivedKept (row updated : Position) : Prop where
  id : updated.id = row.id
  archived : updated.archived = row.archived
  archivedAt : updated.archivedAt = row.archivedAt
  currentPrice : updated.currentPrice = row.currentPrice
  currentPriceUpdated : updated.currentPriceUpdated = row.currentPriceUpdated
  priceHighest : updated.priceHighest = row.priceHighest
  priceLowest : updated.priceLowest = row.priceLowest
  unrealizedPnl : updated.unrealizedPnl = row.unrealizedPnl
  unrealizedPnlPercent : updated.unrealizedPnlPercent = row.unrealizedPnlPercent

section kept

variable (row : Position) (round : LedgerRound) (metadata : RoundMetadata)
  (legs : Option TraderLegs) (now : DateTime)

lemma reconcileOwnedPosition_frame {α : Type*} (field : Position → α)
    (hstamped : field { row with
      roundKey := some round.roundKey
      holdingState := holdingStateFor metadata.frozen round.isOpen } = field row)
    (hadopted : ∀ p, field (adoptExternalGrowth p row round legs) = field p)
    (hshrunk : ∀ p remaining exited, field { p with
      remainingTokenAmount := remaining
      totalExitedAmount := exited } = field p)
    (hclosed : ∀ p, field (closeOwnedPosition p row round now) = field p) :
    field (reconcileOwnedPosition row round metadata legs now) = field row := by
  rw [reconcileOwnedPosition_field _ _ _ _ _ field hshrunk hclosed,
    growOwnedPosition_field _ _ _ _ field hadopted, hstamped]

lemma reconcileOwnedPosition_kept :
    OwnedKept row (reconcileOwnedPosition row round metadata legs now) := by
  -- one frame for all of the fields
  have hframe := reconcileOwnedPosition_frame row round metadata legs now
    (fun p => (p.origin, p.management, p.profitTargetMin, p.profitTargetMax, p.entryTime,
      p.entryPrice, p.entrySizeSol, p.entryTransactionSignature, p.archived, p.archivedAt,
      p.priceHighest, p.priceLowest))
    rfl (fun _ => rfl) (fun _ _ _ => rfl) fun _ => rfl
  simp only [Prod.mk.injEq] at hframe
  obtain ⟨h1, h2, h3, h4, h5, h6, h7, h8, h9, h10, h11, h12⟩ := hframe
  exact ⟨h1, h2, h3, h4, h5, h6, h7, h8, h9, h10, h11, h12⟩

lemma buildPosition_kept : DerivedKept row (buildPosition round metadata (some row) now) :=
  ⟨rfl, rfl, rfl, rfl, rfl, rfl, rfl, rfl, rfl⟩

end kept

/-! ## What is written over a row -/

section writes

variable {context : SyncContext} {round : LedgerRound} {row p : Position}

lemma writeFor_busy (howned : row.isWalletDerived = false)
    (hbusy : isBusy row context.busyMints = true) : writeFor context round (some row) = none := by
  rw [writeFor_owned howned, if_pos hbusy]

lemma writeFor_update_owned (howned : row.isWalletDerived = false)
    (h : writeFor context round (some row) = some (.update p)) : OwnedKept row p := by
  rcases @writeFor_some_cases context round row with hnone | ⟨-, howrite⟩ | ⟨hderived, -⟩
  · rw [hnone] at h
    cases h
  · rw [howrite] at h
    cases h
    exact reconcileOwnedPosition_kept row round _ _ _
  · rw [howned] at hderived
    cases hderived

lemma writeFor_update_derived (hderived : row.isWalletDerived = true)
    (h : writeFor context round (some row) = some (.update p)) : DerivedKept row p := by
  rcases @writeFor_some_cases context round row with hnone | ⟨howned, -⟩ | ⟨-, hwrite⟩
  · rw [hnone] at h
    cases h
  · rw [hderived] at howned
    cases howned
  · rw [hwrite] at h
    cases h
    exact buildPosition_kept row round _ _

lemma writeFor_update_archived (h : writeFor context round (some row) = some (.update p)) :
    p.archived = row.archived ∧ p.archivedAt = row.archivedAt := by
  cases howner : row.isWalletDerived with
  | false =>
    have hkept := writeFor_update_owned howner h
    exact ⟨hkept.archived, hkept.archivedAt⟩
  | true =>
    have hkept := writeFor_update_derived howner h
    exact ⟨hkept.archived, hkept.archivedAt⟩

lemma writeFor_insert_archived {current : Option Position}
    (h : writeFor context round current = some (.insert p)) :
    p.archived = false ∧ p.archivedAt = none := by
  obtain ⟨rfl, -⟩ := writeFor_insert h
  rw [writeFor_none] at h
  cases h
  exact ⟨rfl, rfl⟩

end writes

/-! ## The plan -/

section plan

variable {rounds : List LedgerRound} {existing : List Position} {context : SyncContext}
  {row p : Position}

lemma exists_writeFor_of_update (hid : (existing.map (·.id)).Nodup) (hrow : row ∈ existing)
    (hp : p ∈ (planPositionWrites rounds existing context).updates) (heq : p.id = row.id) :
    ∃ round, (round, some row) ∈ claims existing ∅ rounds ∧
      writeFor context round (some row) = some (.update p) := by
  obtain ⟨round, row', hc, hwrite⟩ := mem_updates hp
  obtain ⟨x, hx, hpid, -⟩ := writeFor_update hwrite
  obtain rfl := Option.some.inj hx
  have hrow' : row' ∈ existing := ((of_mem_claims hc).1 row' rfl).1
  obtain rfl : row' = row := List.inj_on_of_nodup_map hid hrow' hrow (hpid.symm.trans heq)
  exact ⟨round, hc, hwrite⟩

lemma archived_of_mem_inserts (hp : p ∈ (planPositionWrites rounds existing context).inserts) :
    p.archived = false ∧ p.archivedAt = none := by
  obtain ⟨w, hw, hins⟩ := List.mem_filterMap.mp hp
  obtain ⟨⟨round, current⟩, -, hwrite⟩ := List.mem_filterMap.mp hw
  cases w with
  | insert q =>
    obtain rfl : q = p := by simpa [PositionWrite.inserted] using hins
    exact writeFor_insert_archived hwrite
  | update q => cases hins

variable {round : LedgerRound}

lemma no_write_of_busy_claim (hrounds : (rounds.map (·.roundKey)).Nodup)
    (hc : (round, some row) ∈ claims existing ∅ rounds) (howned : row.isWalletDerived = false)
    (hbusy : isBusy row context.busyMints = true)
    (hp : p ∈ (planPositionWrites rounds existing context).inserts ++
      (planPositionWrites rounds existing context).updates) :
    p.roundKey ≠ some round.roundKey := by
  intro hkey
  rcases List.mem_append.mp hp with hp | hp
  · obtain ⟨round', hc', hkey'⟩ := mem_inserts hp
    have heq := claims_unique hrounds hc' hc (Option.some.inj (hkey'.symm.trans hkey))
    cases heq
  · obtain ⟨round', row', hc', hwrite⟩ := mem_updates hp
    obtain ⟨-, -, -, hkey'⟩ := writeFor_update hwrite
    have heq := claims_unique hrounds hc' hc (Option.some.inj (hkey'.symm.trans hkey))
    cases heq
    rw [writeFor_busy howned hbusy] at hwrite
    cases hwrite

lemma mem_claims_of_key (hkeys : (existing.filterMap (·.roundKey)).Nodup) (hround : round ∈ rounds)
    (hrow : row ∈ existing) (hkey : row.roundKey = some round.roundKey) :
    (round, some row) ∈ claims existing ∅ rounds := by
  rw [← @map_fst_claims existing ∅ rounds] at hround
  obtain ⟨⟨round', current⟩, hc, rfl⟩ := List.mem_map.mp hround
  cases current with
  | none =>
    have hnone := (of_mem_claims hc).2 rfl
    exact absurd hkey (byRoundKey_eq_none.mp hnone row hrow)
  | some row' =>
    obtain rfl := eq_of_keyed_claim hkeys hc hrow hkey
    exact hc

/-- **The boundary of ownership**: what a plan may do to each row. -/
structure OwnershipBoundary (rounds : List LedgerRound) (existing : List Position)
    (context : SyncContext) (plan : SyncPlan) : Prop where
  /-- a row the trader is working on is not updated -/
  busyNotUpdated : ∀ row ∈ existing, row.isWalletDerived = false →
    isBusy row context.busyMints = true → ∀ p ∈ plan.updates, p.id ≠ row.id
  /-- the round that claims it, by key or by signature, is not written -/
  busyRoundNotWritten : ∀ row ∈ existing, row.isWalletDerived = false →
    isBusy row context.busyMints = true → ∀ round,
    (round, some row) ∈ claims existing ∅ rounds →
    ∀ p ∈ plan.inserts ++ plan.updates, p.roundKey ≠ some round.roundKey
  /-- nor is the round of its key -/
  busyKeyNotWritten : ∀ row ∈ existing, row.isWalletDerived = false →
    isBusy row context.busyMints = true → ∀ round ∈ rounds,
    row.roundKey = some round.roundKey →
    ∀ p ∈ plan.inserts ++ plan.updates, p.roundKey ≠ some round.roundKey
  /-- a round that matches it by signature is inserted only if another round has claimed it -/
  busyMatchClaimed : ∀ row ∈ existing, row.isWalletDerived = false →
    isBusy row context.busyMints = true → row.id.isSome = true → ∀ round ∈ rounds,
    Matches round row → (∃ p ∈ plan.inserts, p.roundKey = some round.roundKey) →
    ∃ other ∈ rounds, other ≠ round ∧ (other, some row) ∈ claims existing ∅ rounds
  /-- an update is of a row that exists -/
  updateOfRow : ∀ p ∈ plan.updates, ∃ row ∈ existing, p.id = row.id
  /-- an updated row of the bot keeps what the bot owns -/
  ownedKept : ∀ row ∈ existing, row.isWalletDerived = false →
    ∀ p ∈ plan.updates, p.id = row.id → OwnedKept row p
  /-- an updated derived row keeps what the ledger does not own -/
  derivedKept : ∀ row ∈ existing, row.isWalletDerived = true →
    ∀ p ∈ plan.updates, p.id = row.id → DerivedKept row p
  /-- no update archives a row or brings one back -/
  updateArchived : ∀ row ∈ existing, ∀ p ∈ plan.updates, p.id = row.id →
    p.archived = row.archived ∧ p.archivedAt = row.archivedAt
  /-- no inserted row is archived -/
  insertArchived : ∀ p ∈ plan.inserts, p.archived = false ∧ p.archivedAt = none

/-- **Every plan stays inside the boundary**: whatever the rounds are, as long as their keys are
distinct, and whatever rows there are, as long as their ids and their keys are. -/
theorem planPositionWrites_ownership (rounds : List LedgerRound) (existing : List Position)
    (context : SyncContext) (hrounds : (rounds.map (·.roundKey)).Nodup)
    (hid : (existing.map (·.id)).Nodup) (hkeys : (existing.filterMap (·.roundKey)).Nodup) :
    OwnershipBoundary rounds existing context (planPositionWrites rounds existing context) where
  busyNotUpdated := by
    intro row hrow howned hbusy p hp heq
    obtain ⟨round, -, hwrite⟩ := exists_writeFor_of_update hid hrow hp heq
    rw [writeFor_busy howned hbusy] at hwrite
    cases hwrite
  busyRoundNotWritten := fun row _ howned hbusy round hc p hp =>
    no_write_of_busy_claim hrounds hc howned hbusy hp
  busyKeyNotWritten := fun row hrow howned hbusy round hround hkey p hp =>
    no_write_of_busy_claim hrounds (mem_claims_of_key hkeys hround hrow hkey) howned hbusy hp
  busyMatchClaimed := by
    rintro row hrow - - hsome round hround hmatches ⟨p, hp, hkey⟩
    obtain ⟨i, hi⟩ := Option.isSome_iff_exists.mp hsome
    obtain ⟨pre, post, rfl⟩ := List.append_of_mem hround
    obtain ⟨round', hc, hkey'⟩ := mem_inserts hp
    obtain rfl : round' = round :=
      List.inj_on_of_nodup_map hrounds (fst_mem_of_mem_claims hc) hround
        (Option.some.inj (hkey'.symm.trans hkey))
    rcases claimed_of_matches hrounds hc hrow hi hmatches with
      hempty | ⟨other, hother, row', hi', hclaim⟩
    · exact absurd hempty (Finset.notMem_empty i)
    · have hrow' : row' ∈ existing := ((of_mem_claims hclaim).1 row' rfl).1
      obtain rfl : row' = row := List.inj_on_of_nodup_map hid hrow' hrow (hi'.trans hi.symm)
      refine ⟨other, List.mem_append_left _ hother, ?_, hclaim⟩
      rintro rfl
      have heq := claims_unique hrounds hclaim hc rfl
      cases heq
  updateOfRow := by
    intro p hp
    obtain ⟨round, row, hc, hwrite⟩ := mem_updates hp
    obtain ⟨x, hx, hpid, -⟩ := writeFor_update hwrite
    obtain rfl := Option.some.inj hx
    exact ⟨row, ((of_mem_claims hc).1 row rfl).1, hpid⟩
  ownedKept := by
    intro row hrow howned p hp heq
    obtain ⟨round, -, hwrite⟩ := exists_writeFor_of_update hid hrow hp heq
    exact writeFor_update_owned howned hwrite
  derivedKept := by
    intro row hrow hderived p hp heq
    obtain ⟨round, -, hwrite⟩ := exists_writeFor_of_update hid hrow hp heq
    exact writeFor_update_derived hderived hwrite
  updateArchived := by
    intro row hrow p hp heq
    obtain ⟨round, -, hwrite⟩ := exists_writeFor_of_update hid hrow hp heq
    exact writeFor_update_archived hwrite
  insertArchived := fun p hp => archived_of_mem_inserts hp

/-- The boundary around a row whose exit is in flight, with its round in the plan. -/
theorem planPositionWrites_ownership_exiting :
    OwnershipBoundary [testRound "MINT" "open-sig:MINT", testOpenRound "MINT" "second-sig:MINT"]
      [{ botPosition (testRound "MINT" "open-sig:MINT") with
        exitTransactionSignature := some "exit-sig", transactionExitVerified := false }]
      testContext
      (planPositionWrites
        [testRound "MINT" "open-sig:MINT", testOpenRound "MINT" "second-sig:MINT"]
        [{ botPosition (testRound "MINT" "open-sig:MINT") with
          exitTransactionSignature := some "exit-sig", transactionExitVerified := false }]
        testContext) :=
  planPositionWrites_ownership _ _ _ (by decide) (by decide) (by decide)

end plan

end Dripline.Positions.Ledger
