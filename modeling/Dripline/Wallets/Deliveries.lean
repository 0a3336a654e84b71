import Dripline.Transactions.Marks
import Dripline.Wallets.Watch

/-!
# What a delivery leaves alone
-/

namespace Dripline.Wallets.Watch

open Dripline.Transactions

/-! ## What stays -/

/-- Any signature may be fresh. -/
def Anything : String → String → Prop := fun _ _ => True

/-- What a delivery leaves alone. -/
structure Serves (watch after : Watch) : Prop where
  history : watch.history.Grows after.history Anything
  targets : after.targets = watch.targets
  cursors : after.cursors = watch.cursors
  runtimes : after.runtimes = watch.runtimes
  deliveries : ∃ extra, after.deliveries = watch.deliveries ++ extra
  published : ∃ extra, after.published = watch.published ++ extra

variable {watch : Watch}

lemma Serves.refl : watch.Serves watch :=
  ⟨History.Grows.refl _, rfl, rfl, rfl, ⟨[], by simp⟩, ⟨[], by simp⟩⟩

lemma Serves.trans {middle after : Watch} (h : watch.Serves middle) (h' : middle.Serves after) :
    watch.Serves after := by
  obtain ⟨extra, hextra⟩ := h.deliveries
  obtain ⟨extra', hextra'⟩ := h'.deliveries
  obtain ⟨news, hnews⟩ := h.published
  obtain ⟨news', hnews'⟩ := h'.published
  exact ⟨h.history.trans h'.history, h'.targets.trans h.targets, h'.cursors.trans h.cursors,
    h'.runtimes.trans h.runtimes, ⟨extra ++ extra', by rw [hextra', hextra, List.append_assoc]⟩,
    ⟨news ++ news', by rw [hnews', hnews, List.append_assoc]⟩⟩

lemma Serves.delivered {after : Watch} (h : watch.Serves after) {delivery : Delivery}
    (hmem : delivery ∈ watch.deliveries) : delivery ∈ after.deliveries := by
  obtain ⟨extra, hextra⟩ := h.deliveries
  rw [hextra]
  exact List.mem_append_left _ hmem

lemma serves_history {after : History} (h : watch.history.Grows after Anything) :
    watch.Serves { watch with history := after } :=
  ⟨h, rfl, rfl, rfl, ⟨[], (List.append_nil _).symm⟩, ⟨[], (List.append_nil _).symm⟩⟩

section funnel

variable {address : String} {sources : List WatchSource} {backfill : Bool} (signature : String)

lemma serves_act (reply : Reply) (deed : Deed) :
    watch.Serves (act address sources backfill signature reply watch deed) := by
  have htables (deed : Deed) : watch.Serves
      { watch with history := watch.history.deed address signature reply.now deed } :=
    serves_history (History.deed_grows fun _ => Or.inr trivial)
  cases deed with
  | published =>
    exact ⟨History.Grows.refl _, rfl, rfl, rfl, ⟨[], (List.append_nil _).symm⟩, ⟨_, rfl⟩⟩
  | cached => exact htables .cached
  | recorded => exact htables .recorded
  | committed => exact htables .committed
  | remembered => exact htables .remembered

lemma serves_deeds (reply : Reply) (deeds : List Deed) (watch : Watch) :
    watch.Serves (deeds.foldl (act address sources backfill signature reply) watch) := by
  induction deeds generalizing watch with
  | nil => exact Serves.refl
  | cons deed deeds ih => exact (serves_act signature reply deed).trans (ih _)

lemma serves_noteDelivery (outcome : Option ProcessOutcome) :
    watch.Serves (watch.noteDelivery address signature outcome) :=
  ⟨History.Grows.refl _, rfl, rfl, rfl, ⟨_, rfl⟩, ⟨[], by simp [noteDelivery]⟩⟩

lemma serves_deliver (reply : Reply) :
    watch.Serves (watch.deliver address sources backfill signature reply).2 :=
  (serves_deeds signature reply _ watch).trans (serves_noteDelivery signature _)

lemma serves_interrupt (reply : Reply) (done : ℕ) :
    watch.Serves (watch.interrupt address sources backfill signature reply done) :=
  (serves_deeds signature reply _ watch).trans (serves_noteDelivery signature _)

lemma serves_replay (interrupted : Option (Reply × ℕ)) (signatures : List String)
    (replies : List Reply) (watch : Watch) : watch.Serves
      (replay address sources backfill interrupted signatures replies watch).2 := by
  induction signatures generalizing replies watch with
  | nil => exact Serves.refl
  | cons signature signatures ih =>
    cases replies with
    | nil =>
      cases interrupted with
      | none => exact Serves.refl
      | some last => exact serves_interrupt signature last.1 last.2
    | cons reply replies => exact (serves_deliver signature reply).trans (ih replies _)

lemma serves_of_replay {interrupted : Option (Reply × ℕ)} {signatures : List String}
    {replies : List Reply} {after : Watch} {complete : Option Bool}
    (h : replay address sources backfill interrupted signatures replies watch = (complete, after)) :
    watch.Serves after := by
  have hserves : watch.Serves
      (replay address sources backfill interrupted signatures replies watch).2 :=
    serves_replay interrupted signatures replies watch
  rwa [h] at hserves

end funnel

/-! ## What is settled -/

/-- A delivery of a signature has come to its end, and it need not come again. -/
def Settled (watch : Watch) (address signature : String) : Prop :=
  ⟨address, signature, some .terminal⟩ ∈ watch.deliveries

lemma settled_of_replay {address : String} {sources : List WatchSource} {backfill : Bool}
    {interrupted : Option (Reply × ℕ)} (signatures : List String) (replies : List Reply)
    (watch : Watch)
    (h : (replay address sources backfill interrupted signatures replies watch).1 = some true) :
    ∀ signature ∈ signatures,
      (replay address sources backfill interrupted signatures replies watch).2.Settled address
        signature := by
  induction signatures generalizing replies watch with
  | nil => simp
  | cons first signatures ih =>
    cases replies with
    | nil => cases h
    | cons reply replies =>
      obtain ⟨complete, hcomplete, hboth⟩ := Option.map_eq_some_iff.mp h
      obtain ⟨hterminal, rfl⟩ := (Bool.and_eq_true _ _).mp hboth
      intro signature hmem
      rcases List.mem_cons.mp hmem with rfl | hmem
      · refine (serves_replay interrupted signatures replies _).delivered ?_
        have houtcome : (watch.deliver address sources backfill signature reply).1 = .terminal :=
          eq_of_beq hterminal
        refine List.mem_append_right _ ?_
        show _ ∈ [Delivery.mk address signature
          (some (watch.deliver address sources backfill signature reply).1)]
        rw [houtcome]
        exact List.mem_cons_self
      · exact ih replies _ hcomplete signature hmem

/-! ## Replies -/

/-- A transaction that is decoded, recorded and committed. -/
def activityReply : Reply := ⟨true, ⟨true, .transaction true true, true, true⟩, .other, 0⟩

/-- A transaction that is not indexed yet. -/
def lateReply : Reply := { activityReply with answers := ⟨false, .notIndexed, true, true⟩ }

end Dripline.Wallets.Watch
