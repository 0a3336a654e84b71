import Mathlib
import Dripline.Positions.Ledger.Row

/-!
# The leg a trade is priced by

`positions/ledger/reducer.rs`, `quote_for`. The place in its transaction of the row that an event's
quote is taken from.

* `attributed_spec` — no two events of a transaction take their quotes from one row.
-/

namespace Dripline.Positions.Ledger

open Dripline.Chain Dripline.Transactions

/-- A row of the wanted mints that can be the consideration. Source: `find` in `quote_for` -/
def isLeg (targetMint : String) (acquisition : Bool) (wanted : String → Bool)
    (delta : SubjectAssetDelta) : Bool :=
  wanted delta.mint && (delta.mint != targetMint && matchesDirection acquisition delta.deltaRaw)

/-- Two positions move in the direction that is quoted. Source: `same_direction_positions` in
`quote_for` -/
def sharesDirection (group : List SubjectAssetDelta) (acquisition : Bool) : Prop :=
  1 < (group.filter fun delta =>
    !isReferenceAsset delta.mint && sameDirection acquisition delta.deltaRaw).length

instance instDecidableSharesDirection (group : List SubjectAssetDelta) (acquisition : Bool) :
    Decidable (sharesDirection group acquisition) :=
  inferInstanceAs (Decidable (1 < _))

/-- The asset and the place of the row that `quoteFor` answers with. Source: `quote_for` -/
def legFor (group : List SubjectAssetDelta) (targetMint : String) (acquisition : Bool) :
    Option (QuoteAsset × ℕ) :=
  if sharesDirection group acquisition then none
  else
    let find wanted := group.findIdx? (isLeg targetMint acquisition wanted)
    (((find (· == nativeSolSentinel)).or (find isNativeAsset)).map (Prod.mk .sol)).or
      ((find isStableAsset).map (Prod.mk .usd))

/-- The leg that the event of a row is attributed: a row that moves a position in a trade. Source:
`quote` in `Round::apply_acquisition` and in `Round::apply_disposal` -/
def attributed (group : List SubjectAssetDelta) (place : ℕ) : Option (QuoteAsset × ℕ) :=
  group[place]?.bind fun delta =>
    if isEligible delta && delta.kind == .trade then
      legFor group delta.mint (decide (0 < delta.deltaRaw))
    else none

/-- The quote that a leg amounts to. -/
def legQuote (group : List SubjectAssetDelta) (leg : QuoteAsset × ℕ) : Option QuoteLeg :=
  group[leg.2]?.map fun delta => ⟨leg.1, rawToWhole |delta.deltaRaw| delta.decimals⟩

section Search

variable {group : List SubjectAssetDelta} {targetMint : String} {acquisition : Bool}

lemma findQuote_spec (wanted : String → Bool) :
    (group.findIdx? (isLeg targetMint acquisition wanted) = none ∧
      findQuote group targetMint acquisition wanted = none) ∨
    ∃ place delta, group.findIdx? (isLeg targetMint acquisition wanted) = some place ∧
      group[place]? = some delta ∧ isLeg targetMint acquisition wanted delta = true ∧
      findQuote group targetMint acquisition wanted =
        some (rawToWhole |delta.deltaRaw| delta.decimals) := by
  unfold findQuote
  induction group with
  | nil => exact .inl ⟨rfl, rfl⟩
  | cons head rest ih =>
    rw [List.findIdx?_cons, List.findSome?_cons]
    by_cases hhead : isLeg targetMint acquisition wanted head = true
    · refine .inr ⟨0, head, by rw [if_pos hhead], rfl, hhead, ?_⟩
      obtain ⟨hwanted, hmoves⟩ := (Bool.and_eq_true _ _).mp hhead
      simp only [quoteCandidate, hwanted, hmoves, if_true]
    · have hskip : (if wanted head.mint then quoteCandidate targetMint acquisition head else none) =
          none := by
        rw [isLeg, Bool.and_eq_true, not_and] at hhead
        split_ifs with hwanted
        · exact if_neg (hhead hwanted)
        · rfl
      rw [if_neg hhead, hskip]
      rcases ih with ⟨hplace, hquote⟩ | ⟨place, delta, hplace, hget, hleg, hquote⟩
      · exact .inl ⟨by rw [hplace, Option.map_none], hquote⟩
      · exact .inr ⟨place + 1, delta, by rw [hplace, Option.map_some], hget, hleg, hquote⟩

lemma legFor_spec :
    (legFor group targetMint acquisition = none ∧ quoteFor group targetMint acquisition = none) ∨
    ∃ leg delta, legFor group targetMint acquisition = some leg ∧ group[leg.2]? = some delta ∧
      isReferenceAsset delta.mint = true ∧ matchesDirection acquisition delta.deltaRaw = true ∧
      ¬sharesDirection group acquisition ∧
      quoteFor group targetMint acquisition =
        some ⟨leg.1, rawToWhole |delta.deltaRaw| delta.decimals⟩ := by
  unfold legFor quoteFor
  by_cases hshares : sharesDirection group acquisition
  · exact .inl ⟨if_pos hshares, if_pos hshares⟩
  · have hquote := hshares
    unfold sharesDirection at hquote
    simp only [if_neg hshares, if_neg hquote]
    have hmoves {wanted : String → Bool} {delta : SubjectAssetDelta}
        (h : isLeg targetMint acquisition wanted delta = true) :
        wanted delta.mint = true ∧ matchesDirection acquisition delta.deltaRaw = true := by
      simp only [isLeg, Bool.and_eq_true] at h
      exact ⟨h.1, h.2.2⟩
    rcases @findQuote_spec group targetMint acquisition
        (· == nativeSolSentinel) with ⟨hplace, hfind⟩ | ⟨place, delta, hplace, hget, hleg, hfind⟩
    · rcases @findQuote_spec group targetMint acquisition isNativeAsset with
          ⟨hplace', hfind'⟩ | ⟨place, delta, hplace', hget, hleg, hfind'⟩
      · rcases @findQuote_spec group targetMint acquisition isStableAsset with
          ⟨hplace'', hfind''⟩ | ⟨place, delta, hplace'', hget, hleg, hfind''⟩
        · exact .inl (by simp [hplace, hplace', hplace'', hfind, hfind', hfind''])
        · refine .inr ⟨(.usd, place), delta, by simp [hplace, hplace', hplace''], hget, ?_,
            (hmoves hleg).2, hshares, by simp [hfind, hfind', hfind'']⟩
          simp [isReferenceAsset, (hmoves hleg).1]
      · refine .inr ⟨(.sol, place), delta, by simp [hplace, hplace'], hget, ?_, (hmoves hleg).2,
          hshares, by simp [hfind, hfind']⟩
        simp [isReferenceAsset, (hmoves hleg).1]
    · refine .inr ⟨(.sol, place), delta, by simp [hplace], hget, ?_, (hmoves hleg).2, hshares,
        by simp [hfind]⟩
      have := (hmoves hleg).1
      simp [isReferenceAsset, this]

end Search

section Group

variable {group : List SubjectAssetDelta} {delta delta' : SubjectAssetDelta} {second first : ℕ}

lemma one_lt_length_filter {p : SubjectAssetDelta → Bool} (hlt : first < second)
    (hfirst : group[first]? = some delta) (hsecond : group[second]? = some delta')
    (hp : p delta = true) (hp' : p delta' = true) : 1 < (group.filter p).length := by
  have hmem : delta ∈ (group.take second).filter p := by
    refine List.mem_filter.mpr ⟨List.mem_of_getElem? (i := first) ?_, hp⟩
    rw [List.getElem?_take_of_lt hlt, hfirst]
  have hmem' : delta' ∈ (group.drop second).filter p := by
    refine List.mem_filter.mpr ⟨List.mem_of_getElem? (i := 0) ?_, hp'⟩
    rw [List.getElem?_drop, Nat.add_zero, hsecond]
  rw [← List.take_append_drop second group, List.filter_append, List.length_append]
  have := List.length_pos_of_mem hmem
  have := List.length_pos_of_mem hmem'
  omega

lemma place_unique {acquisition : Bool} (hshares : ¬sharesDirection group acquisition)
    (hfirst : group[first]? = some delta) (hsecond : group[second]? = some delta')
    (heligible : isEligible delta = true) (heligible' : isEligible delta' = true)
    (hmoves : sameDirection acquisition delta.deltaRaw = true)
    (hmoves' : sameDirection acquisition delta'.deltaRaw = true) : first = second := by
  have hposition {d : SubjectAssetDelta} (he : isEligible d = true)
      (hm : sameDirection acquisition d.deltaRaw = true) :
      (!isReferenceAsset d.mint && sameDirection acquisition d.deltaRaw) = true := by
    simp only [isEligible, Bool.not_or, Bool.and_eq_true] at he
    rw [he.1, hm, Bool.and_self]
  rcases Nat.lt_trichotomy first second with hlt | heq | hlt
  · exact absurd (one_lt_length_filter hlt hfirst hsecond (hposition heligible hmoves)
      (hposition heligible' hmoves')) hshares
  · exact heq
  · exact absurd (one_lt_length_filter hlt hsecond hfirst (hposition heligible' hmoves')
      (hposition heligible hmoves)) hshares

/-- The row that a leg is attributed to, and the leg. -/
structure LegOf (group : List SubjectAssetDelta) (place : ℕ) (leg : QuoteAsset × ℕ)
    (delta legDelta : SubjectAssetDelta) : Prop where
  row : group[place]? = some delta
  eligible : isEligible delta = true
  leg : group[leg.2]? = some legDelta
  reference : isReferenceAsset legDelta.mint = true
  opposite : matchesDirection (decide (0 < delta.deltaRaw)) legDelta.deltaRaw = true
  alone : ¬sharesDirection group (decide (0 < delta.deltaRaw))

lemma attributed_eq_some {place : ℕ} {leg : QuoteAsset × ℕ} (h : attributed group place = some leg) :
    ∃ delta legDelta, LegOf group place leg delta legDelta := by
  obtain ⟨delta, hrow, hleg⟩ := Option.bind_eq_some_iff.mp h
  split_ifs at hleg with htrade
  rcases @legFor_spec group delta.mint (decide (0 < delta.deltaRaw)) with
    ⟨hnone, -⟩ | ⟨leg', legDelta, hsome, hrest⟩
  · rw [hnone] at hleg
    cases hleg
  · obtain rfl := Option.some.inj (hleg.symm.trans hsome)
    obtain ⟨hget, hreference, hopposite, halone, -⟩ := hrest
    exact ⟨delta, legDelta, hrow, ((Bool.and_eq_true _ _).mp htrade).1, hget, hreference, hopposite,
      halone⟩

lemma sameDirection_of_eligible (h : isEligible delta = true) :
    sameDirection (decide (0 < delta.deltaRaw)) delta.deltaRaw = true := by
  simp only [isEligible, Bool.not_or, Bool.and_eq_true, Bool.not_eq_true', beq_eq_false_iff_ne] at h
  rcases lt_or_gt_of_ne h.2 with hneg | hpos
  · simp [sameDirection, hneg]
  · simp [sameDirection, hpos]

end Group

/-- **A reference row is the quote of one event at most**, of an acquisition where it is a debit and
of a disposal where it is a credit; and the events that a transaction's rows leave carry the quotes
of the legs that they are attributed. -/
theorem attributed_spec (group : List SubjectAssetDelta) :
    (∀ place delta, group[place]? = some delta → isEligible delta = true → ∀ round : Round,
      ∃ event, (round.apply group delta).events = round.events ++ [event] ∧
        EventOf delta event ∧ event.quote = (attributed group place).bind (legQuote group)) ∧
    (∀ place place' leg leg', attributed group place = some leg →
      attributed group place' = some leg' → leg.2 = leg'.2 → place = place') ∧
    ∀ place leg, attributed group place = some leg → ∃ delta legDelta,
      group[place]? = some delta ∧ group[leg.2]? = some legDelta ∧
      isReferenceAsset legDelta.mint = true ∧
      (0 < delta.deltaRaw → legDelta.deltaRaw < 0) ∧ (delta.deltaRaw < 0 → 0 < legDelta.deltaRaw) := by
  refine ⟨fun place delta hrow heligible round => ?_, fun place place' leg leg' h h' hsame => ?_,
    fun place leg h => ?_⟩
  · obtain ⟨event, hevents, hof, hquote⟩ := Round.apply_events round group delta
    refine ⟨event, hevents, hof, ?_⟩
    rw [hquote, attributed, hrow, Option.bind_some, heligible, Bool.true_and]
    simp only [beq_iff_eq]
    split_ifs
    · rcases @legFor_spec group delta.mint (decide (0 < delta.deltaRaw)) with
        ⟨hleg, hnone⟩ | ⟨leg, legDelta, hleg, hrest⟩
      · rw [hleg, hnone, Option.bind_none]
      · rw [hrest.2.2.2.2, hleg, Option.bind_some, legQuote, hrest.1, Option.map_some]
    · rfl
  · obtain ⟨delta, legDelta, hfirst⟩ := attributed_eq_some h
    obtain ⟨delta', legDelta', hsecond⟩ := attributed_eq_some h'
    obtain rfl : legDelta = legDelta' := by
      have := hfirst.leg
      rw [hsame, hsecond.leg] at this
      exact (Option.some.inj this).symm
    have hmoves := sameDirection_of_eligible hfirst.eligible
    have hmoves' := sameDirection_of_eligible hsecond.eligible
    -- one sign of the leg is the sign of both rows
    have hdirection : decide (0 < delta.deltaRaw) = decide (0 < delta'.deltaRaw) := by
      have hopposite := hfirst.opposite
      have hopposite' := hsecond.opposite
      cases hd : decide (0 < delta.deltaRaw) <;> cases hd' : decide (0 < delta'.deltaRaw) <;>
        simp only [hd, hd', matchesDirection, cond_true, cond_false, decide_eq_true_eq] at * <;>
        omega
    rw [← hdirection] at hmoves'
    exact place_unique hfirst.alone hfirst.row hsecond.row hfirst.eligible hsecond.eligible hmoves
      hmoves'
  · obtain ⟨delta, legDelta, hleg⟩ := attributed_eq_some h
    refine ⟨delta, legDelta, hleg.row, hleg.leg, hleg.reference, fun hpos => ?_, fun hneg => ?_⟩
    · have hopposite := hleg.opposite
      rw [decide_eq_true hpos] at hopposite
      exact of_decide_eq_true hopposite
    · have hopposite := hleg.opposite
      rw [decide_eq_false (not_lt.mpr hneg.le)] at hopposite
      exact of_decide_eq_true hopposite

end Dripline.Positions.Ledger
