import Dripline.Found.Trace
import Dripline.Found.WriteBehind
import Dripline.Positions.Operations

/-!
# Pending swaps, step by step

`positions/state_pending.rs` again, with what can come between the steps of an operation: the map is
edited under its lock, the entries are collected under it, and the list is written after both.

* `persisted_of_fresh` — a restart finds what is in memory, unless a step was overtaken;
  `not_persisted` — it may be.
-/

namespace Dripline.Positions

open Dripline.Found.Trace Dripline.Found.WriteBehind

/-! ## The registries -/

/-- A list of entries as text, and back. Source: `state_pending.rs`, `serde_json::to_string` and
`serde_json::from_str` -/
structure Codec (α : Type) where
  encode : List α → String
  decode : String → Except String (List α)

namespace Codec

variable {α : Type} (codec : Codec α)

/-- The text of the entries is read back as they are. -/
def Restores (entries : List α) : Prop :=
  codec.encode entries ≠ "" ∧ codec.decode (codec.encode entries) = .ok entries

/-- Source: `state_pending.rs`, `rehydrate_pending_dca_swaps` and
`rehydrate_pending_partial_exits` -/
def rehydrate (signature : α → String) (raw : Option String) : Except String (List α) :=
  match raw with
  | some payload =>
    if payload = "" then .ok [] else (codec.decode payload).map (load signature)
  | none => .ok []

end Codec

/-- The adds and the partial exits that are pending, with the operations on them that are under way.
Source: `state_pending.rs`, `PENDING_DCA_SWAPS` and `PENDING_PARTIAL_EXIT_DETAILS` -/
structure PendingSwaps where
  dcas : Registry ℕ PendingDcaSwap String
  exits : Registry ℕ PendingPartialExit String

/-- Source: `state_pending.rs` -/
def registerPendingDcaSwap (entry : PendingDcaSwap) : Edit PendingDcaSwap String := .put entry

/-- A step of an operation on the adds, or on the partial exits. -/
inductive PendingEvent
  | dca (event : Event ℕ PendingDcaSwap String)
  | exit (event : Event ℕ PendingPartialExit String)

namespace PendingSwaps

/-- What a start has loaded from the metadata, with nothing under way. -/
def loaded (dcas : List PendingDcaSwap) (exits : List PendingPartialExit) : PendingSwaps where
  dcas := ⟨load (·.signature) dcas, some dcas, none, fun _ => none⟩
  exits := ⟨load (·.signature) exits, some exits, none, fun _ => none⟩

/-- One step of an operation; the two registries have nothing in common. -/
def step (pending : PendingSwaps) : PendingEvent → PendingSwaps
  | .dca event => { pending with dcas := pending.dcas.step (·.signature) event }
  | .exit event => { pending with exits := pending.exits.step (·.signature) event }

/-- The step is not overtaken: when no other operation has still to write, what is written is the
map as it is, and nothing is taken back after a write that went through. -/
def Fresh (pending : PendingSwaps) : PendingEvent → Prop
  | .dca event => pending.dcas.Fresh event
  | .exit event => pending.exits.Fresh event

end PendingSwaps

/-- Once the operations have returned and the last write went through, what a restart loads has for
each signature what the map has. -/
def Persisted {α : Type} (signature : α → String) (codec : Codec α)
    (registry : Registry ℕ α String) : Prop :=
  registry.Idle → registry.written = some true →
    ∃ entries, codec.rehydrate signature (registry.stored.map codec.encode) = .ok entries ∧
      ∀ s, lookup signature entries s = lookup signature registry.memory s

/-! ## Operations that run alone -/

section alone

variable (registry : Registry ℕ PendingDcaSwap String) (task : ℕ)

/-- The steps of a registration. -/
def registration (entry : PendingDcaSwap) (order : List PendingDcaSwap) :
    Except String Unit → List (Event ℕ PendingDcaSwap String)
  | .ok _ => [.begun task (registerPendingDcaSwap entry), .taken task order, .wrote task true]
  | .error _ =>
    [.begun task (registerPendingDcaSwap entry), .taken task order, .wrote task false,
      .undone task]

end alone

/-! ## What a restart finds -/

lemma persisted_of_sound {α : Type} {signature : α → String} {codec : Codec α}
    {registry : Registry ℕ α String} (h : registry.Sound signature)
    (hread : ∀ order, registry.stored = some order → codec.Restores order) :
    Persisted signature codec registry := by
  intro hidle hwritten
  obtain ⟨order, hstored, hperm⟩ := h.matches signature hidle hwritten
  obtain ⟨hne, hdecode⟩ := hread order hstored
  have hdistinct : (order.map signature).Nodup := (hperm.map signature).nodup_iff.mpr h.distinct
  refine ⟨order, ?_, lookup_perm hdistinct hperm⟩
  simp [Codec.rehydrate, hstored, hne, hdecode, load_of_nodup hdistinct, Except.map]

/-- **A restart finds what is in memory**, when no step was overtaken. -/
theorem persisted_of_fresh (dcaCodec : Codec PendingDcaSwap) (exitCodec : Codec PendingPartialExit)
    (dcas : List PendingDcaSwap) (exits : List PendingPartialExit) (events : List PendingEvent)
    (hdca : ∀ order, (events.foldl PendingSwaps.step (.loaded dcas exits)).dcas.stored = some order →
      dcaCodec.Restores order)
    (hexit : ∀ order, (events.foldl PendingSwaps.step (.loaded dcas exits)).exits.stored = some order →
      exitCodec.Restores order)
    (hfresh : Throughout PendingSwaps.step PendingSwaps.Fresh (.loaded dcas exits) events) :
    Persisted (·.signature) dcaCodec (events.foldl PendingSwaps.step (.loaded dcas exits)).dcas ∧
      Persisted (·.signature) exitCodec
        (events.foldl PendingSwaps.step (.loaded dcas exits)).exits := by
  have hsound := hfresh.final
    (fun pending => pending.dcas.Sound (·.signature) ∧ pending.exits.Sound (·.signature))
    ⟨Registry.sound_loaded _ _ (nodup_load dcas) _, Registry.sound_loaded _ _ (nodup_load exits) _⟩
    (by
      rintro pending ⟨hdcas, hexits⟩ event - hevent
      cases event with
      | dca event => exact ⟨hdcas.step event hevent, hexits⟩
      | exit event => exact ⟨hdcas, hexits.step event hevent⟩)
  exact ⟨persisted_of_sound hsound.1 hdca, persisted_of_sound hsound.2 hexit⟩

/-- An add of 1 SOL at the epoch. -/
def addNow (signature : String) : PendingDcaSwap :=
  ⟨signature, "DezXAZ8z7PnrnRJjz3wXBoRgixCa6xjnB7YaB1pPB263", 7, none, 0, 1⟩

/-- The text of such an add. -/
def addNowText (signature : String) : String :=
  "\x7b\"signature\":\"" ++ signature ++
    "\",\"mint\":\"DezXAZ8z7PnrnRJjz3wXBoRgixCa6xjnB7YaB1pPB263\",\"position_id\":7," ++
    "\"expiry_height\":null,\"created_at\":\"1970-01-01T00:00:00Z\",\"size_sol\":1.0\x7d"

/-- The text of such adds, read back for what the runs below write. -/
def addNowCodec : Codec PendingDcaSwap where
  encode entries := "[" ++ ",".intercalate (entries.map fun entry => addNowText entry.signature) ++ "]"
  decode text :=
    if text = "[" ++ addNowText "first" ++ "]" then .ok [addNow "first"]
    else .error "expected value at line 1 column 1"

/-- The text of no partial exits. -/
def noExitCodec : Codec PendingPartialExit where
  encode _ := "[]"
  decode text := if text = "[]" then .ok [] else .error "expected value at line 1 column 1"

lemma addNowCodec_restores : addNowCodec.Restores [addNow "first"] := by
  have hencode : addNowCodec.encode [addNow "first"] = "[" ++ addNowText "first" ++ "]" := by
    simp [addNowCodec, addNow]
  refine ⟨?_, ?_⟩
  · rw [hencode]
    simp
  · rw [hencode]
    simp [addNowCodec]

/-- A registration that runs alone. -/
def aloneRun : List PendingEvent :=
  (registration 1 (addNow "first") [addNow "first"] (.ok ())).map .dca

theorem persisted_of_fresh_aloneRun :
    Persisted (·.signature) addNowCodec
        (aloneRun.foldl PendingSwaps.step (.loaded [] [])).dcas ∧
      Persisted (·.signature) noExitCodec
        (aloneRun.foldl PendingSwaps.step (.loaded [] [])).exits := by
  refine persisted_of_fresh addNowCodec noExitCodec [] [] aloneRun ?_ ?_ ?_
  · intro order hstored
    have horder : [addNow "first"] = order := Option.some.inj hstored
    exact horder ▸ addNowCodec_restores
  · intro order hstored
    have horder : [] = order := Option.some.inj hstored
    subst horder
    exact ⟨by decide, rfl⟩
  · refine ⟨trivial, trivial, ?_, trivial⟩
    intro order undo hstage
    have horder : [addNow "first"] = order := by
      injection hstage with hstage
      injection hstage
    exact Or.inl (horder ▸ List.Perm.refl _)

/-- Two registrations: the second collects the entries and writes them before the first has written
what it has collected. -/
def overtakenRun : List PendingEvent :=
  [.dca (.begun 1 (registerPendingDcaSwap (addNow "first"))),
    .dca (.taken 1 [addNow "first"]),
    .dca (.begun 2 (registerPendingDcaSwap (addNow "second"))),
    .dca (.taken 2 [addNow "first", addNow "second"]),
    .dca (.wrote 2 true),
    .dca (.wrote 1 true)]

/-- **A swap in flight is lost**: both registrations have returned, the last write went through, and
the second add is in memory and not in the metadata. -/
theorem not_persisted :
    ¬ Persisted (·.signature) addNowCodec
      (overtakenRun.foldl PendingSwaps.step (.loaded [] [])).dcas := by
  intro h
  have hidle : (overtakenRun.foldl PendingSwaps.step (.loaded [] [])).dcas.Idle := by
    intro task
    show Function.update (Function.update (Function.update (Function.update (Function.update
      (Function.update (fun _ => none) 1 _) 1 _) 2 _) 2 _) 2 none) 1 none task = none
    by_cases h1 : task = 1
    · rw [h1, Function.update_self]
    · by_cases h2 : task = 2
      · simp [h2]
      · simp [h1, h2]
  obtain ⟨entries, hentries, hlookup⟩ := h hidle rfl
  have hloaded : entries = [addNow "first"] := by
    obtain ⟨hne, hdecode⟩ := addNowCodec_restores
    have hfound : addNowCodec.rehydrate (·.signature)
        (some (addNowCodec.encode [addNow "first"])) = .ok entries := hentries
    simp only [Codec.rehydrate, hne, if_false, hdecode, Except.map] at hfound
    have hsingle : load (·.signature) [addNow "first"] = [addNow "first"] :=
      load_of_nodup (List.nodup_singleton "first")
    rw [hsingle] at hfound
    exact (Except.ok.inj hfound).symm
  have hsecond := hlookup "second"
  subst hloaded
  revert hsecond
  decide

end Dripline.Positions
