import Dripline.Found.Excursion
import Dripline.Positions.Ledger.Conservation

/-!
# A consistent history and its excursions

When the chain's balances around a mint's rows fit together, its rounds are the excursions of the
balance away from zero. Gaps, genesis rounds and superseded rounds do not occur.

* `rounds_eq_excursions` — the rounds of the mint record its excursions.
-/

namespace Dripline.Positions.Ledger

open List

open Dripline.Chain Dripline.Transactions Dripline.Found.StableSort Dripline.Found.Excursion

/-! ## Consistency -/

/-- Rows whose balances fit together from `balance` on, within the range the source converts. -/
def Consistent : ℕ → List SubjectAssetDelta → Prop
  | _, [] => True
  | balance, d :: l =>
    d.beforeRaw = some balance ∧ 0 ≤ balance + d.deltaRaw ∧
      d.afterRaw = some (balance + d.deltaRaw).toNat ∧ balance + d.deltaRaw < 2 ^ 127 ∧
      Consistent (balance + d.deltaRaw).toNat l

instance decidableConsistent :
    (balance : ℕ) → (l : List SubjectAssetDelta) → Decidable (Consistent balance l)
  | _, [] => isTrue trivial
  | balance, d :: l =>
    haveI := decidableConsistent (balance + d.deltaRaw).toNat l
    inferInstanceAs (Decidable (_ ∧ _ ∧ _ ∧ _ ∧ _))

/-- The balance after rows that fit together. -/
def finalBalance (balance : ℕ) (l : List SubjectAssetDelta) : ℕ :=
  l.foldl (fun b d => ((b : ℤ) + d.deltaRaw).toNat) balance

variable {d : SubjectAssetDelta} {l : List SubjectAssetDelta} {balance : ℕ}

lemma consistent_concat :
    Consistent balance (l ++ [d]) ↔
      Consistent balance l ∧ Consistent (finalBalance balance l) [d] := by
  induction l generalizing balance with
  | nil => simp [Consistent, finalBalance]
  | cons d' l ih =>
    rw [cons_append, Consistent, ih]
    simp only [Consistent, finalBalance, foldl_cons, and_assoc]

lemma Consistent.filter {p : SubjectAssetDelta → Bool} (h : Consistent balance l)
    (hp : ∀ d ∈ l, p d = false → d.deltaRaw = 0) : Consistent balance (l.filter p) := by
  induction l generalizing balance with
  | nil => trivial
  | cons d l ih =>
    obtain ⟨hbefore, hnonneg, hafter, hrange, hl⟩ := h
    have ih' := ih hl fun d' hd' => hp d' (mem_cons_of_mem _ hd')
    cases hd : p d
    · rw [filter_cons_of_neg (by simp [hd])]
      have hzero := hp d mem_cons_self hd
      simpa [hzero] using ih'
    · rw [filter_cons_of_pos hd]
      exact ⟨hbefore, hnonneg, hafter, hrange, ih'⟩

lemma finalBalance_lt (h : Consistent balance l) (hbalance : balance < 2 ^ 127) :
    finalBalance balance l < 2 ^ 127 := by
  induction l generalizing balance with
  | nil => exact hbalance
  | cons d l ih =>
    obtain ⟨-, hnonneg, -, hrange, hl⟩ := h
    have hnext : ((balance : ℤ) + d.deltaRaw).toNat < 2 ^ 127 := by omega
    exact ih hl hnext

lemma reconciles_of_consistent (h : Consistent balance [d]) (hbalance : balance < 2 ^ 127)
    (hmoves : d.deltaRaw ≠ 0) :
    Reconciles balance d ∧ carry balance d = (finalBalance balance [d] : ℕ) := by
  obtain ⟨hbefore, hnonneg, hafter, hrange, -⟩ := h
  have hreported : reportedAfter d = some (balance + d.deltaRaw) := by
    have hlt : (balance + d.deltaRaw).toNat < 2 ^ 127 := by omega
    rw [reportedAfter, hafter, Option.bind_some, asI128, if_pos hlt, Int.toNat_of_nonneg hnonneg]
  have hrec : Reconciles balance d := by
    refine ⟨?_, ?_, ?_⟩
    · rw [reportedBefore, hbefore, Option.bind_some, asI128, if_pos hbalance]
    · rw [hreported]
      congr 1
      omega
    · intro hle
      omega
  refine ⟨hrec, ?_⟩
  rw [hrec.carry_eq, finalBalance, foldl_cons, foldl_nil]
  omega

/-! ## The trail of a consistent history -/

/-- A chapter of a consistent history: its opening was seen, it was not superseded, and its rows
reconcile. -/
structure Chapter.Consistent (c : Chapter) : Prop where
  grounded : c.segment.isGrounded = true
  ending : c.ending ≠ .superseded
  balanced : Balanced 0 c.segment.steps

variable {steps : List Step}

lemma standing_pos_of_current {g : Segment} (hcurrent : (trailOf steps).current = some g) :
    0 < g.standing := by
  have hmem : Chapter.mk g .running ∈ (trailOf steps).chapters := by
    simp [Trail.chapters, hcurrent]
  by_contra hle
  exact absurd ((wellFormed_of_mem_chapters _ hmem).ending.mpr (not_lt.mp hle)) (by simp)

variable {s : Step}

lemma target_of_consistent (hchapters : ∀ c ∈ (trailOf steps).chapters, c.Consistent)
    (hstanding : ((trailOf steps).current.map (·.standing)).getD 0 = balance)
    (hrec : Reconciles balance s.delta) (hs : Consistent balance [s.delta])
    (hmove : s.delta.deltaRaw ≠ 0) :
    ((trailOf steps).target s).isGrounded = true ∧ Balanced 0 ((trailOf steps).target s).steps ∧
      ((trailOf steps).target s).standing = carry balance s.delta ∧
      (isGrounded s.delta = true → (trailOf steps).current = none) := by
  obtain ⟨hbefore, hnonneg, -, -, -⟩ := hs
  cases hcurrent : (trailOf steps).current with
  | none =>
    rw [hcurrent] at hstanding
    have hzero : balance = 0 := by
      have : (0 : ℤ) = balance := hstanding
      omega
    have hg : isGrounded s.delta = true := by
      simp only [isGrounded, hbefore, hzero, beq_self_eq_true, Bool.and_true,
        decide_eq_true_eq]
      omega
    have hopens : (trailOf steps).opens s = true := by simp [Trail.opens, hg]
    rw [hzero] at hrec ⊢
    rw [Trail.target_of_opens _ s hopens]
    exact ⟨by simp [Trail.nameFor, hg, Segment.isGrounded], ⟨hrec, trivial⟩, rfl,
      fun _ => rfl⟩
  | some g =>
    have hg := hchapters ⟨g, .running⟩ (by simp [Trail.chapters, hcurrent])
    have hpos := standing_pos_of_current hcurrent
    have hbalance : g.standing = balance := by
      rw [← hstanding, hcurrent]
      rfl
    have hplain : isGrounded s.delta = false := by
      have : balance ≠ 0 := by omega
      simp [isGrounded, hbefore, this]
    have hopens : (trailOf steps).opens s = false := by simp [Trail.opens, hplain, hcurrent]
    obtain ⟨g', hcurrent', -, htarget⟩ := Trail.target_of_not_opens _ s hopens
    obtain rfl : g = g' := by simpa [hcurrent] using hcurrent'
    rw [htarget, Segment.steps_feed, balanced_concat, Segment.standing_feed, hbalance]
    refine ⟨hg.grounded, ⟨hg.balanced, ?_⟩, rfl, ?_⟩
    · rw [← hbalance] at hrec
      exact hrec
    · intro hgrounded
      rw [hplain] at hgrounded
      cases hgrounded

lemma trail_consistent (h : Consistent 0 (steps.map (·.delta)))
    (hmoves : ∀ s ∈ steps, s.delta.deltaRaw ≠ 0) :
    (∀ c ∈ (trailOf steps).chapters, c.Consistent) ∧
      ((trailOf steps).current.map (·.standing)).getD 0 =
        (finalBalance 0 (steps.map (·.delta)) : ℕ) := by
  induction steps using List.reverseRecOn with
  | nil => exact ⟨by simp [Trail.chapters, Trail.empty], rfl⟩
  | append_singleton steps s ih =>
    rw [map_append, map_singleton, consistent_concat] at h
    obtain ⟨hsteps, hs⟩ := h
    obtain ⟨hchapters, hstanding⟩ :=
      ih hsteps fun s' hs' => hmoves s' (mem_append_left _ hs')
    have hmove := hmoves s (by simp)
    obtain ⟨hrec, hcarry⟩ := reconciles_of_consistent hs
      (finalBalance_lt hsteps (by norm_num)) hmove
    obtain ⟨hgrounded, hbalanced, hcarried, hnone⟩ :=
      target_of_consistent hchapters hstanding hrec hs hmove
    rw [trailOf_concat]
    refine ⟨?_, ?_⟩
    · intro c hc
      rw [Trail.chapters_step] at hc
      rcases mem_append.mp hc with hc | hc
      · rcases mem_append.mp hc with hc | hc
        · exact hchapters c (mem_append_left _ hc)
        · split at hc
          next hg => simp [hnone hg] at hc
          next => cases hc
      · rw [mem_singleton.mp hc]
        refine ⟨hgrounded, ?_, hbalanced⟩
        unfold Trail.endingAfter
        dsimp only
        split <;> simp
    · have hstep : ((trailOf steps).step s).current =
          if ((trailOf steps).target s).standing ≤ 0 then none
          else some ((trailOf steps).target s) := rfl
      have hfinal : finalBalance 0 ((steps ++ [s]).map (·.delta)) =
          finalBalance (finalBalance 0 (steps.map (·.delta))) [s.delta] := by
        simp [finalBalance]
      rw [hfinal, ← hcarry, hstep, hcarried]
      split
      next hle =>
        have := carry_nonneg (finalBalance 0 (steps.map (·.delta))) s.delta
        simp only [Option.map_none, Option.getD_none]
        omega
      next => simpa using hcarried

/-! ## Chapters and excursions -/

/-- A row after which nothing is held. -/
def returnsToZero (d : SubjectAssetDelta) : Bool := d.afterRaw == some 0

/-- The excursions of a mint's balance away from zero: its eligible rows in chain order, cut where
the balance returns to zero. -/
def excursions (deltas : List SubjectAssetDelta) (mint : String) : List (List SubjectAssetDelta) :=
  cutAfter returnsToZero ((rows deltas).filter (·.mint = mint))

lemma carry_of_returnsToZero (h : returnsToZero d = true) (balance : ℤ) : carry balance d = 0 := by
  have hafter : d.afterRaw = some 0 := by simpa [returnsToZero] using h
  simp [carry, reportedAfter, hafter]

lemma returnsToZero_of_carry {balance : ℤ} (h : Reconciles balance d) (hcarry : carry balance d ≤ 0) :
    returnsToZero d = true := by
  have hreported := h.after
  have hzero : max (max balance 0 + d.deltaRaw) 0 = 0 := by
    have := h.carry_eq
    have := h.nonneg
    omega
  rw [hzero] at hreported
  obtain ⟨v, hv, hconv⟩ := Option.bind_eq_some_iff.mp hreported
  have : (v : ℤ) = 0 := (asI128_eq_some hconv).symm
  simp only [returnsToZero, hv]
  simpa using this

variable {c : Chapter}

lemma Chapter.last_row (hc : c.WellFormed) (hcons : c.Consistent) :
    ∃ init last, c.segment.steps = init ++ [last] ∧
      (∀ s ∈ init, returnsToZero s.delta = false) ∧
      (returnsToZero last.delta = true ↔ c.ending = .returned) := by
  obtain ⟨init, last, hsteps⟩ := c.segment.exists_concat
  have hstanding : c.segment.standing = carry (carryAll 0 init) last.delta := by
    rw [Segment.standing, hsteps, carryAll_concat]
  have hrec : Reconciles (carryAll 0 init) last.delta := by
    have := hcons.balanced
    rw [hsteps, balanced_concat] at this
    exact this.2
  refine ⟨init, last, hsteps, ?_, ?_⟩
  · intro s hs
    by_contra hzero
    obtain ⟨pre, post, rfl⟩ := append_of_mem hs
    have hpos := hc.afloat (pre ++ [s]) (post ++ [last]) (by rw [hsteps]; simp) (by simp) (by simp)
    rw [carryAll_concat, carry_of_returnsToZero (by simpa using hzero)] at hpos
    exact lt_irrefl _ hpos
  · rw [hc.ending, hstanding]
    constructor
    · intro hzero
      rw [carry_of_returnsToZero hzero]
    · exact returnsToZero_of_carry hrec

lemma Chapter.apply_openedAt_of_rest (hc : c.WellFormed) (hcons : c.Consistent)
    {pre post : List Step} (hsplit : c.segment.steps = pre ++ s :: post) (hpre : pre ≠ []) :
    ((replay c.segment.opening pre).apply s.group s.delta).openedAt =
      (replay c.segment.opening pre).openedAt := by
  have hpos := hc.afloat pre (s :: post) hsplit hpre (by simp)
  have hrec : Reconciles (carryAll 0 pre) s.delta := by
    have hbalanced := hcons.balanced
    rw [hsplit, balanced_append] at hbalanced
    exact hbalanced.2.1
  have hbalance : (replay c.segment.opening pre).balance = carryAll 0 pre := by
    rw [replay_balance, Segment.opening_of_grounded hcons.grounded]
    rfl
  have hbefore : balanceBefore (carryAll 0 pre) s.delta = carryAll 0 pre := by
    simp [balanceBefore, hrec.before, hpos.le]
  rw [Round.apply_openedAt, hbalance, hbefore, if_neg (by omega)]

lemma openedAt_of_grounded (hc : c.WellFormed) (hcons : c.Consistent) :
    c.segment.round.openedAt = c.segment.first.delta.blockTime := by
  have hopening : c.segment.opening.openedAt = c.segment.first.delta.blockTime := by
    rw [Segment.opening_of_grounded hcons.grounded]
    rfl
  have hprefix : ∀ rest post, c.segment.rest = rest ++ post →
      (replay c.segment.opening (c.segment.first :: rest)).openedAt =
        c.segment.first.delta.blockTime := by
    intro rest
    induction rest using List.reverseRecOn with
    | nil =>
      intro _ _
      rw [replay_cons, replay_nil, Round.apply_openedAt]
      split
      · rfl
      · exact hopening
    | append_singleton rest s ih =>
      intro post hrest
      rw [append_assoc] at hrest
      have hsplit : c.segment.steps = (c.segment.first :: rest) ++ s :: post := by
        rw [Segment.steps, hrest]
        rfl
      rw [← cons_append, replay_concat,
        Chapter.apply_openedAt_of_rest hc hcons hsplit (by simp)]
      exact ih _ hrest
  exact hprefix c.segment.rest [] (by simp)

/-- A round that records an excursion: exactly its events, closed exactly when the balance returned
to zero, with a complete history, and keyed by its first acquisition. -/
structure ExcursionRound (excursion : List SubjectAssetDelta) (round : LedgerRound) : Prop where
  events : List.Forall₂ EventOf excursion round.events
  closed : round.isOpen = false ↔ ∃ d ∈ excursion.getLast?, d.afterRaw = some 0
  complete : round.historyComplete = true
  key : ∃ d ∈ excursion.head?, 0 < d.deltaRaw ∧ round.roundKey = groundedKey d ∧
    round.openedAt = d.blockTime

lemma Chapter.excursionRound (hc : c.WellFormed) (hcons : c.Consistent) :
    ExcursionRound (c.segment.steps.map (·.delta)) c.round := by
  obtain ⟨init, last, hsteps, -, hlast⟩ := Chapter.last_row hc hcons
  refine ⟨?_, ?_, ?_, ?_⟩
  · rw [forall₂_map_left_iff]
    exact c.round_events.imp fun _ _ h => h.eventOf
  · rw [hsteps, map_append, map_singleton, List.getLast?_concat, Bool.eq_false_iff,
      ne_eq, c.round_isOpen]
    have hreturned : (¬ c.ending = .running) ↔ c.ending = .returned := by
      have := hcons.ending
      cases h : c.ending <;> simp_all
    rw [hreturned, ← hlast]
    simp [returnsToZero]
  · rw [Chapter.round_historyComplete hc]
    refine ⟨hcons.ending, ?_⟩
    rw [Segment.round, replay_historyComplete]
    rw [Segment.opening_of_grounded hcons.grounded]
    exact ⟨rfl, hcons.balanced⟩
  · have hg : isGrounded c.segment.first.delta = true := by
      rw [← hc.isGrounded_eq]
      exact hcons.grounded
    refine ⟨c.segment.first.delta, by simp [Segment.steps], ?_, ?_, ?_⟩
    · simp only [isGrounded, Bool.and_eq_true, decide_eq_true_eq] at hg
      exact hg.1
    · rcases hc.name with ⟨hname, -⟩ | ⟨-, hplain⟩
      · rw [Chapter.round_roundKey, hname]
        rfl
      · rw [hplain] at hg
        cases hg
    · have hopened : c.round.openedAt = c.segment.round.openedAt := by
        obtain ⟨g, ending⟩ := c
        cases ending
        · rfl
        · exact absurd rfl hcons.ending
        · rfl
      rw [hopened]
      exact openedAt_of_grounded hc hcons

section consistent

variable {deltas : List SubjectAssetDelta} {mint : String}

lemma consistent_of_mem_chapters
    (h : Consistent 0 ((chainOrder deltas).filter (·.mint = mint))) :
    ∀ c ∈ (trail deltas mint).chapters, c.Consistent := by
  have hrows : (stepsOf deltas mint).map (·.delta) =
      ((chainOrder deltas).filter (·.mint = mint)).filter isEligible := by
    rw [map_delta_stepsOf, rows, filter_comm]
  refine (trail_consistent ?_ ?_).1
  · rw [hrows]
    cases hmint : isReferenceAsset mint
    · refine h.filter ?_
      intro d hd hzero
      have hd' : d.mint = mint := by simpa using (mem_filter.mp hd).2
      simpa [isEligible, hd', hmint] using hzero
    · -- a reference asset has no rows here, and no excursions
      have hnone : ((chainOrder deltas).filter (·.mint = mint)).filter isEligible = [] := by
        rw [filter_eq_nil_iff]
        intro d hd
        have hd' : d.mint = mint := by simpa using (mem_filter.mp hd).2
        simp [isEligible, hd', hmint]
      rw [hnone]
      trivial
  · intro s hs hzero
    have := (delta_of_mem_stepsOf hs).2.2.1
    simp [isEligible, hzero] at this

lemma excursions_eq_chapters (hcons : ∀ c ∈ (trail deltas mint).chapters, c.Consistent) :
    excursions deltas mint =
      (trail deltas mint).chapters.map fun c => c.segment.steps.map (·.delta) := by
  unfold excursions
  rw [← flatMap_trail, flatMap_def]
  apply cutAfter_flatten
  · intro piece hpiece
    obtain ⟨c, hc, rfl⟩ := mem_map.mp hpiece
    obtain ⟨init, last, hsteps, hinit, -⟩ :=
      Chapter.last_row (wellFormed_of_mem_chapters c hc) (hcons c hc)
    refine ⟨init.map (·.delta), last.delta, by rw [hsteps]; simp, ?_⟩
    intro d hd
    obtain ⟨s, hs, rfl⟩ := mem_map.mp hd
    exact hinit s hs
  · -- a chapter with another one behind it is over, and it was not superseded
    intro pre piece post hsplit hpost x hx
    obtain ⟨cs, cs', hchapters, -, hcs'⟩ := map_eq_append_iff.mp hsplit
    obtain ⟨c, cs'', rfl, rfl, hcs''⟩ := map_eq_cons_iff.mp hcs'
    have hmem : c ∈ (trail deltas mint).chapters := by rw [hchapters]; simp
    have hover : c.ending ≠ .running := ending_of_split hchapters (by
      rintro rfl
      exact hpost (by simpa using hcs''.symm))
    obtain ⟨init, last, hsteps, -, hlast⟩ :=
      Chapter.last_row (wellFormed_of_mem_chapters c hmem) (hcons c hmem)
    have hreturned : c.ending = .returned := by
      have := (hcons c hmem).ending
      cases hending : c.ending <;> simp_all
    rw [hsteps, map_append, map_singleton, List.getLast?_concat] at hx
    rw [← Option.some.inj hx]
    exact hlast.mpr hreturned

/-- **The rounds of a consistent mint are its excursions**, one each: exactly the excursion's
events, closed exactly when the balance returned to zero, with a complete history, keyed by the
first acquisition. They are returned in the order of their openings' times and then of their keys,
so in the order of the chain when the times say so. -/
theorem rounds_eq_excursions
    (h : Consistent 0 ((chainOrder deltas).filter (·.mint = mint))) :
    ∃ rounds, List.Forall₂ ExcursionRound (excursions deltas mint) rounds ∧
      (reduceRounds deltas).filter (·.mint = mint) = sortBy roundCmp rounds ∧
      (((excursions deltas mint).Pairwise fun a b => ∀ x ∈ a.head?, ∀ y ∈ b.head?,
          compare x.blockTime y.blockTime = .lt) →
        (reduceRounds deltas).filter (·.mint = mint) = rounds) := by
  have hcons := consistent_of_mem_chapters h
  have hcut := excursions_eq_chapters hcons
  have hrounds : ∀ c ∈ (trail deltas mint).chapters,
      ExcursionRound (c.segment.steps.map (·.delta)) c.round := fun c hc =>
    Chapter.excursionRound (wellFormed_of_mem_chapters c hc) (hcons c hc)
  refine ⟨(trail deltas mint).chapters.map (·.round), ?_, filter_reduceRounds deltas mint, ?_⟩
  · rw [hcut, forall₂_map_left_iff, forall₂_map_right_iff, forall₂_same]
    exact hrounds
  · intro htimes
    rw [filter_reduceRounds]
    apply sortBy_eq_self
    rw [hcut, pairwise_map] at htimes
    rw [pairwise_map]
    refine List.Pairwise.imp_of_mem ?_ htimes
    intro c c' hc hc' hlt
    obtain ⟨d, hd, -, -, hopened⟩ := (hrounds c hc).key
    obtain ⟨d', hd', -, -, hopened'⟩ := (hrounds c' hc').key
    have hcompare := hlt d hd d' hd'
    rw [← hopened, ← hopened'] at hcompare
    have hround : roundCmp c.round c'.round = .lt := by
      simp only [roundCmp, compareLex, compareOn, hcompare]
      rfl
    rw [hround]
    rfl

end consistent

/-- A buy and a sale: one excursion. -/
theorem rounds_eq_excursions_sold :
    ∃ rounds, List.Forall₂ ExcursionRound
        (excursions [.token "s1" 1 "mintA" 5 0 5, .token "s2" 2 "mintA" (-5) 5 0] "mintA") rounds ∧
      (reduceRounds [.token "s1" 1 "mintA" 5 0 5, .token "s2" 2 "mintA" (-5) 5 0]).filter
        (·.mint = "mintA") = sortBy roundCmp rounds ∧
      (((excursions [.token "s1" 1 "mintA" 5 0 5, .token "s2" 2 "mintA" (-5) 5 0]
          "mintA").Pairwise fun a b => ∀ x ∈ a.head?, ∀ y ∈ b.head?,
          compare x.blockTime y.blockTime = .lt) →
        (reduceRounds [.token "s1" 1 "mintA" 5 0 5, .token "s2" 2 "mintA" (-5) 5 0]).filter
          (·.mint = "mintA") = rounds) :=
  rounds_eq_excursions (by decide)

lemma keys_of_excursionRounds {excursions : List (List SubjectAssetDelta)}
    {rounds : List LedgerRound} (h : List.Forall₂ ExcursionRound excursions rounds) :
    excursions.map (·.head?.map groundedKey) = rounds.map fun r => some r.roundKey := by
  induction h with
  | nil => rfl
  | cons h _ ih =>
    obtain ⟨d, hd, -, hkey, -⟩ := h.key
    rw [map_cons, map_cons, ih, Option.mem_def.mp hd, hkey]
    rfl

/-- Three rows of one second: a buy, a sale, and another buy. -/
def sameSecond : List SubjectAssetDelta :=
  [{ SubjectAssetDelta.token "zz" 1 "mintA" 5 0 5 with blockTime := some 100 },
    { SubjectAssetDelta.token "zy" 2 "mintA" (-5) 5 0 with blockTime := some 100 },
    { SubjectAssetDelta.token "aa" 3 "mintA" 5 0 5 with blockTime := some 100 }]

/-- Two excursions that open in the same second come back in the order of their keys. -/
theorem sameSecond_not_in_order :
    Consistent 0 ((chainOrder sameSecond).filter (·.mint = "mintA")) ∧
      ¬ List.Forall₂ ExcursionRound (excursions sameSecond "mintA")
        ((reduceRounds sameSecond).filter (·.mint = "mintA")) := by
  refine ⟨by decide, fun h => ?_⟩
  exact absurd (keys_of_excursionRounds h) (by decide)

end Dripline.Positions.Ledger
