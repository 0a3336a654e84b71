import Dripline.Positions.Ledger.Lane

/-!
# The trail of a mint

What the reducer is for, without its accumulators: the rows of a mint are cut into *segments*, one
a round, by the balance they carry alone. A segment starts at a grounded row, or at the first row
after a stretch without a round, and it ends when the balance reaches zero.
-/

namespace Dripline.Positions.Ledger

open Dripline.Chain Dripline.Transactions List Option

/-! ## Names -/

/-- What the key of a round is made of. -/
inductive RoundName
  | grounded (signature : String)
  | genesis
  | gap (signature : String)
  | holding

/-- The key a name stands for. -/
def RoundName.key (mint : String) : RoundName → String
  | .grounded signature => signature ++ ":" ++ mint
  | .genesis => "genesis:" ++ mint
  | .gap signature => "genesis:" ++ signature ++ ":" ++ mint
  | .holding => "genesis:holding:" ++ mint

/-! ## Segments and chapters -/

/-- A stretch of a mint's rows that share a round. -/
structure Segment where
  name : RoundName
  first : Step
  rest : List Step

namespace Segment

variable (g : Segment)

/-- The rows of a segment. -/
def steps : List Step := g.first :: g.rest

/-- The balance a segment leaves. -/
def standing : ℤ := carryAll 0 g.steps

/-- A segment with one more row. -/
def feed (s : Step) : Segment := { g with rest := g.rest ++ [s] }

/-- A segment whose opening acquisition was seen. -/
def isGrounded : Bool :=
  match g.name with
  | .grounded _ => true
  | _ => false

/-- The round of a segment before its first row. -/
def opening : Round :=
  if g.isGrounded then Round.grounded g.first.delta (g.name.key g.first.delta.mint)
  else Round.genesis g.first.delta (g.name.key g.first.delta.mint)

/-- The round of a segment. -/
def round : Round := replay g.opening g.steps

@[simp] lemma steps_feed (s : Step) : (g.feed s).steps = g.steps ++ [s] := rfl

@[simp] lemma name_feed (s : Step) : (g.feed s).name = g.name := rfl

@[simp] lemma round_feed (s : Step) : (g.feed s).round = g.round.apply s.group s.delta := by
  simp only [round, steps_feed, replay_concat]
  rfl

@[simp] lemma standing_feed (s : Step) : (g.feed s).standing = carry g.standing s.delta := by
  simp only [standing, steps_feed, carryAll_concat]

@[simp] lemma round_balance : g.round.balance = g.standing := by
  rw [round, replay_balance, standing, steps]
  simp only [carryAll, foldl_cons]
  congr 1
  unfold opening
  split
  · rfl
  · -- a genesis round starts at the balance the chain reports, which its first row reads anyway
    simp only [Round.genesis, carry, balanceBefore, reportedBefore]
    cases g.first.delta.beforeRaw.bind asI128 <;> rfl

@[simp] lemma round_mint : g.round.mint = g.first.delta.mint := by
  rw [round, replay_mint]
  unfold opening
  split <;> rfl

@[simp] lemma round_roundKey : g.round.roundKey = g.name.key g.first.delta.mint := by
  rw [round, replay_roundKey]
  unfold opening
  split <;> rfl

end Segment

/-- How a segment ended: at zero, under a grounded row that contradicts it, or not yet. -/
inductive Ending
  | returned
  | superseded
  | running

/-- A segment and how it ended. -/
structure Chapter where
  segment : Segment
  ending : Ending

/-- The round a chapter is returned as. -/
def Chapter.round (c : Chapter) : LedgerRound :=
  match c.ending with
  | .returned => c.segment.round.finish false
  | .superseded => c.segment.round.closeStale
  | .running => c.segment.round.finish true

@[simp] lemma Chapter.round_mint (c : Chapter) : c.round.mint = c.segment.first.delta.mint := by
  obtain ⟨g, ending⟩ := c
  cases ending <;> simp [Chapter.round]

@[simp] lemma Round.closeStale_roundKey (r : Round) : r.closeStale.roundKey = r.roundKey := by
  unfold Round.closeStale
  split <;> rfl

@[simp] lemma Round.finish_roundKey (r : Round) (stillOpen : Bool) :
    (r.finish stillOpen).roundKey = r.roundKey := rfl

@[simp] lemma Chapter.round_roundKey (c : Chapter) :
    c.round.roundKey = c.segment.name.key c.segment.first.delta.mint := by
  obtain ⟨g, ending⟩ := c
  cases ending <;> simp [Chapter.round]

/-! ## Trails -/

/-- Everything a mint has been through so far. -/
structure Trail where
  past : List Chapter
  current : Option Segment
  genesisUsed : Bool

namespace Trail

/-- The trail before the first row. -/
def empty : Trail := ⟨[], none, false⟩

/-- The chapters of a trail, the running one last. -/
def chapters (t : Trail) : List Chapter :=
  t.past ++ (t.current.map (Chapter.mk · .running)).toList

/-- A row opens a segment of its own. -/
def opens (t : Trail) (s : Step) : Bool :=
  Ledger.isGrounded s.delta || t.current.isNone

/-- The name of the segment a row opens. -/
def nameFor (t : Trail) (s : Step) : RoundName :=
  if Ledger.isGrounded s.delta then .grounded s.delta.signature
  else if t.genesisUsed then .gap s.delta.signature else .genesis

/-- The segment a row ends up in. -/
def target (t : Trail) (s : Step) : Segment :=
  if Ledger.isGrounded s.delta then ⟨t.nameFor s, s, []⟩
  else match t.current with
    | some g => g.feed s
    | none => ⟨t.nameFor s, s, []⟩

/-- The chapters a row ends: the one it supersedes, and the one it brings to zero. -/
def ends (t : Trail) (s : Step) : List Chapter :=
  (if Ledger.isGrounded s.delta then (t.current.map (Chapter.mk · .superseded)).toList else []) ++
    if (t.target s).standing ≤ 0 then [⟨t.target s, .returned⟩] else []

/-- One more row. -/
def step (t : Trail) (s : Step) : Trail where
  past := t.past ++ t.ends s
  current := if (t.target s).standing ≤ 0 then none else some (t.target s)
  genesisUsed := t.genesisUsed || (!Ledger.isGrounded s.delta && t.current.isNone)

end Trail

/-- The trail of a list of rows. -/
def trailOf (steps : List Step) : Trail := steps.foldl Trail.step Trail.empty

@[simp] lemma trailOf_nil : trailOf [] = Trail.empty := rfl

@[simp] lemma trailOf_concat (steps : List Step) (s : Step) :
    trailOf (steps ++ [s]) = (trailOf steps).step s := by
  simp [trailOf]

/-! ## The reducer follows the trail -/

/-- The working state a trail stands for. -/
def Trail.lane (t : Trail) : Lane where
  current := t.current.map (·.round)
  done := t.past.map (·.round)
  genesisUsed := t.genesisUsed

lemma Trail.round_target (t : Trail) (s : Step) :
    (t.target s).round = (t.lane.target s.delta).apply s.group s.delta := by
  unfold Trail.target Lane.target Trail.nameFor
  by_cases hg : Ledger.isGrounded s.delta = true
  · simp only [hg, if_true]
    rfl
  · cases hc : t.current with
    | none =>
      simp only [hg, hc, Trail.lane, map_none, getD_none, Bool.false_eq_true,
        if_false]
      cases t.genesisUsed <;> rfl
    | some g =>
      simp only [hg, hc, Trail.lane, map_some, getD_some, Bool.false_eq_true,
        if_false, Segment.round_feed]

lemma Trail.lane_step (t : Trail) (s : Step) : (t.step s).lane = t.lane.step s := by
  have hbalance : ((t.lane.target s.delta).apply s.group s.delta).balance =
      (t.target s).standing := by
    rw [← Trail.round_target, Segment.round_balance]
  unfold Lane.step Lane.finishes Trail.lane Trail.step
  congr 1
  · change Option.map _ (if _ then none else _) = if ((t.lane.target s.delta).apply _ _).balance ≤ 0
      then none else some ((t.lane.target s.delta).apply s.group s.delta)
    rw [hbalance, ← Trail.round_target]
    split <;> rfl
  · change List.map _ (t.past ++ t.ends s) = t.past.map _ ++ (t.lane.superseded s.delta ++
      if ((t.lane.target s.delta).apply s.group s.delta).balance ≤ 0
      then [((t.lane.target s.delta).apply s.group s.delta).finish false] else [])
    rw [hbalance, ← Trail.round_target, map_append, Trail.ends, map_append]
    congr 2
    · unfold Lane.superseded
      split
      · cases hc : t.current <;> simp [Trail.lane, hc, Chapter.round]
      · rfl
    · split <;> rfl
  · change _ = (t.genesisUsed || (!Ledger.isGrounded s.delta && (t.current.map _).isNone))
    rw [isNone_map]

lemma lane_eq_trail (deltas : List SubjectAssetDelta) (mint : String) :
    (reduceAll deltas).lane mint = (trailOf (stepsOf deltas mint)).lane := by
  rw [lane_reduceAll]
  generalize stepsOf deltas mint = steps
  induction steps using List.reverseRecOn with
  | nil => rfl
  | append_singleton steps s ih =>
    rw [trailOf_concat, Trail.lane_step, ← ih, foldl_concat]

/-! ## What a row does to the chapters -/

namespace Trail

variable (t : Trail) (s : Step)

/-- How the segment a row ends up in stands after it. -/
def endingAfter : Ending :=
  if (t.target s).standing ≤ 0 then .returned else .running

/-- The chapters a row leaves before the one it ends up in. -/
def settled : List Chapter :=
  t.past ++ if Ledger.isGrounded s.delta then
    (t.current.map (Chapter.mk · .superseded)).toList else []

lemma chapters_step : (t.step s).chapters =
    t.settled s ++ [⟨t.target s, t.endingAfter s⟩] := by
  unfold chapters step ends settled endingAfter
  by_cases h : (t.target s).standing ≤ 0
  · simp [h]
  · simp [h]

lemma target_of_opens (h : t.opens s = true) : t.target s = ⟨t.nameFor s, s, []⟩ := by
  unfold target
  split
  next => rfl
  next hg =>
    have hcurrent : t.current = none := by simpa [opens, hg] using h
    rw [hcurrent]

lemma target_of_not_opens (h : t.opens s = false) :
    ∃ g, t.current = some g ∧ Ledger.isGrounded s.delta = false ∧ t.target s = g.feed s := by
  simp only [opens, Bool.or_eq_false_iff, isNone_eq_false_iff] at h
  obtain ⟨hg, hcurrent⟩ := h
  obtain ⟨g, hcurrent⟩ := isSome_iff_exists.mp hcurrent
  exact ⟨g, hcurrent, hg, by simp [target, hg, hcurrent]⟩

lemma settled_of_opens (h : t.opens s = true) : t.settled s =
    t.past ++ (t.current.map (Chapter.mk · .superseded)).toList := by
  unfold settled
  split
  next => rfl
  next hg =>
    have hcurrent : t.current = none := by simpa [opens, hg] using h
    simp [hcurrent]

lemma settled_of_not_opens (h : t.opens s = false) : t.settled s = t.past := by
  have hg : Ledger.isGrounded s.delta = false := by
    simp only [opens, Bool.or_eq_false_iff] at h
    exact h.1
  simp [settled, hg]

/-- The names of a trail's segments. -/
def names : List RoundName := t.chapters.map (·.segment.name)

lemma names_step : (t.step s).names =
    t.names ++ if t.opens s then [t.nameFor s] else [] := by
  unfold names
  rw [chapters_step]
  cases h : t.opens s
  · obtain ⟨g, hcurrent, -, htarget⟩ := t.target_of_not_opens s h
    rw [settled_of_not_opens t s h, htarget]
    simp [chapters, hcurrent]
  · rw [settled_of_opens t s h, target_of_opens t s h]
    cases hcurrent : t.current <;> simp [chapters, hcurrent]

end Trail

lemma flatMap_chapters (steps : List Step) :
    (trailOf steps).chapters.flatMap (·.segment.steps) = steps := by
  induction steps using List.reverseRecOn with
  | nil => rfl
  | append_singleton steps s ih =>
    rw [trailOf_concat, Trail.chapters_step, flatMap_append]
    cases h : (trailOf steps).opens s
    · obtain ⟨g, hcurrent, -, htarget⟩ := (trailOf steps).target_of_not_opens s h
      rw [Trail.settled_of_not_opens _ s h, htarget]
      simpa [Trail.chapters, hcurrent] using congrArg (· ++ [s]) ih
    · rw [Trail.settled_of_opens _ s h, Trail.target_of_opens _ s h]
      cases hcurrent : (trailOf steps).current <;>
        simpa [Trail.chapters, hcurrent, Segment.steps] using congrArg (· ++ [s]) ih

variable {steps : List Step} {c : Chapter}

lemma mem_of_mem_chapter (hc : c ∈ (trailOf steps).chapters) {s : Step} (hs : s ∈ c.segment.steps) :
    s ∈ steps := by
  rw [← flatMap_chapters steps]
  exact mem_flatMap.mpr ⟨c, hc, hs⟩

/-! ## Inside a chapter -/

/-- What is true of every chapter: where its name comes from, that only its first row can be
grounded, that the balance stays above zero inside it, and how it stands at its end. -/
structure Chapter.WellFormed (c : Chapter) : Prop where
  name : c.segment.name = .grounded c.segment.first.delta.signature ∧
      isGrounded c.segment.first.delta = true ∨
    (c.segment.name = .genesis ∨ c.segment.name = .gap c.segment.first.delta.signature) ∧
      isGrounded c.segment.first.delta = false
  plain : ∀ s ∈ c.segment.rest, isGrounded s.delta = false
  afloat : ∀ pre post, c.segment.steps = pre ++ post → pre ≠ [] → post ≠ [] → 0 < carryAll 0 pre
  ending : c.ending = .returned ↔ c.segment.standing ≤ 0

lemma Trail.wellFormed_opened (t : Trail) (s : Step) (h : t.opens s = true) :
    Chapter.WellFormed ⟨t.target s, t.endingAfter s⟩ where
  name := by
    rw [target_of_opens t s h]
    unfold nameFor
    dsimp only
    cases hg : Ledger.isGrounded s.delta <;> cases t.genesisUsed <;> simp
  plain := by
    rw [target_of_opens t s h]
    simp
  afloat := by
    rw [target_of_opens t s h]
    intro pre post hsplit hpre hpost
    have hlen := congrArg List.length hsplit
    rw [length_append] at hlen
    have := length_pos_of_ne_nil hpre
    have := length_pos_of_ne_nil hpost
    simp [Segment.steps] at hlen
    omega
  ending := by
    unfold endingAfter
    dsimp only
    split <;> simp_all

lemma Trail.wellFormed_fed (t : Trail) (s : Step) (h : t.opens s = false)
    (hrunning : ∀ g, t.current = some g → Chapter.WellFormed ⟨g, .running⟩) :
    Chapter.WellFormed ⟨t.target s, t.endingAfter s⟩ := by
  obtain ⟨g, hcurrent, hg, htarget⟩ := t.target_of_not_opens s h
  have hwf := hrunning g hcurrent
  have hstanding : 0 < g.standing := by
    by_contra hle
    exact absurd (hwf.ending.mpr (not_lt.mp hle)) (by simp)
  refine ⟨?_, ?_, ?_, ?_⟩
  · rw [htarget]
    exact hwf.name
  · rw [htarget]
    intro s' hs'
    rcases mem_append.mp hs' with hs' | hs'
    · exact hwf.plain s' hs'
    · rw [mem_singleton.mp hs']
      exact hg
  · rw [htarget]
    intro pre post hsplit hpre hpost
    rcases eq_nil_or_concat' post with rfl | ⟨post, z, rfl⟩
    · exact absurd rfl hpost
    · rw [Segment.steps_feed, ← append_assoc] at hsplit
      obtain ⟨hsteps, -⟩ := append_inj' hsplit rfl
      by_cases hempty : post = []
      · rw [hempty, append_nil] at hsteps
        rw [← hsteps]
        exact hstanding
      · exact hwf.afloat pre post hsteps hpre hempty
  · unfold endingAfter
    dsimp only
    split <;> simp_all

lemma wellFormed_of_mem_chapters : ∀ c ∈ (trailOf steps).chapters, c.WellFormed := by
  induction steps using List.reverseRecOn with
  | nil =>
    intro c hc
    simp [Trail.chapters, Trail.empty] at hc
  | append_singleton steps s ih =>
    have hpast : ∀ c ∈ (trailOf steps).past, c.WellFormed := fun c hc =>
      ih c (mem_append_left _ hc)
    have hrunning : ∀ g, (trailOf steps).current = some g → Chapter.WellFormed ⟨g, .running⟩ :=
      fun g hg => ih _ (mem_append_right _ (by simp [hg]))
    intro c hc
    rw [trailOf_concat, Trail.chapters_step] at hc
    rcases mem_append.mp hc with hc | hc
    · rcases mem_append.mp hc with hc | hc
      · exact hpast c hc
      · split at hc
        · obtain ⟨g, hg, rfl⟩ := map_eq_some_iff.mp (mem_toList.mp hc)
          have hwf := hrunning g hg
          exact ⟨hwf.name, hwf.plain, hwf.afloat, by simpa using hwf.ending⟩
        · cases hc
    · rw [mem_singleton.mp hc]
      cases h : (trailOf steps).opens s
      · exact Trail.wellFormed_fed _ s h hrunning
      · exact Trail.wellFormed_opened _ s h

lemma Chapter.WellFormed.isGrounded_eq (h : c.WellFormed) :
    c.segment.isGrounded = Ledger.isGrounded c.segment.first.delta := by
  unfold Segment.isGrounded
  rcases h.name with ⟨hname, hg⟩ | ⟨hname | hname, hg⟩ <;> rw [hname, hg]

/-! ## Names are not reused -/

lemma source_of_mem_names : ∀ name ∈ (trailOf steps).names,
    (∃ s ∈ steps, name = .grounded s.delta.signature ∨ name = .gap s.delta.signature) ∨
      (name = .genesis ∧ (trailOf steps).genesisUsed = true) := by
  induction steps using List.reverseRecOn with
  | nil =>
    intro name hname
    simp [Trail.names, Trail.chapters, Trail.empty] at hname
  | append_singleton steps s ih =>
    intro name hname
    rw [trailOf_concat, Trail.names_step] at hname
    rw [trailOf_concat]
    rcases mem_append.mp hname with hname | hname
    · rcases ih name hname with ⟨s', hs', h⟩ | ⟨h, hused⟩
      · exact Or.inl ⟨s', mem_append_left _ hs', h⟩
      · exact Or.inr ⟨h, by simp [Trail.step, hused]⟩
    · split at hname
      next hopens =>
        rw [mem_singleton.mp hname]
        unfold Trail.nameFor
        split
        next hg => exact Or.inl ⟨s, by simp, Or.inl rfl⟩
        next hg =>
          split
          next => exact Or.inl ⟨s, by simp, Or.inr rfl⟩
          next hused =>
            refine Or.inr ⟨rfl, ?_⟩
            simpa [Trail.step, Trail.opens, hg, hused] using hopens
      next => cases hname

lemma nodup_names (hsig : (steps.map (·.delta.signature)).Nodup) : (trailOf steps).names.Nodup := by
  induction steps using List.reverseRecOn with
  | nil => simp [Trail.names, Trail.chapters, Trail.empty]
  | append_singleton steps s ih =>
    rw [map_append, nodup_append] at hsig
    obtain ⟨hsteps, -, hfresh⟩ := hsig
    have hnew : ∀ s' ∈ steps, s'.delta.signature ≠ s.delta.signature := fun s' hs' =>
      hfresh _ (mem_map_of_mem hs') _ (by simp)
    rw [trailOf_concat, Trail.names_step]
    split
    next hopens =>
      rw [nodup_append]
      refine ⟨ih hsteps, by simp, ?_⟩
      intro name hname name' hname'
      rw [mem_singleton.mp hname']
      rintro rfl
      unfold Trail.nameFor at hname
      split at hname
      next =>
        rcases source_of_mem_names _ hname with ⟨s', hs', h | h⟩ | ⟨h, -⟩
        · exact hnew s' hs' (RoundName.grounded.inj h).symm
        · cases h
        · cases h
      next =>
        split at hname
        next =>
          rcases source_of_mem_names _ hname with ⟨s', hs', h | h⟩ | ⟨h, -⟩
          · cases h
          · exact hnew s' hs' (RoundName.gap.inj h).symm
          · cases h
        next hused =>
          rcases source_of_mem_names _ hname with ⟨s', hs', h | h⟩ | ⟨-, h⟩
          · cases h
          · cases h
          · exact hused h
    next => simpa using ih hsteps

end Dripline.Positions.Ledger
