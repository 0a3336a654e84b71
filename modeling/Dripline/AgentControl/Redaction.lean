import Dripline.AgentControl.Audit
import Mathlib

/-!
# What a redaction hides

`agent_control/audit.rs`: `sanitize` and `sanitize_value`, over any two values that differ below
some keys.

* `Codec.sanitize_spec` — when a summary is returned, how large the outputs are, and which keys are
  hidden.
-/

namespace Dripline.AgentControl

open List

variable {N : Type}

/-! ## The summary -/

/-- Source: `audit.rs` -/
def maxSummaryBytes : ℕ := 2048

/-- Source: `audit.rs`, `sanitize` -/
def truncatedMarker : String := " …[truncated]"

/-- The library's `truncate` of a text that is longer: it panics unless a character ends there. -/
def truncate (s : String) (length : ℕ) : Option String :=
  let kept := String.ofList (takeBytes length s.toList)
  if kept.utf8ByteSize = length then some kept else none

namespace Codec

variable (codec : Codec N)

/-- The summary, unless it panics. The loop after the cut takes nothing off: a text ends with a
character.
Source: `audit.rs` -/
def sanitize (value : Value N) : Option String :=
  let s := codec.text (redact 0 value)
  if maxSummaryBytes < s.utf8ByteSize then
    (truncate s maxSummaryBytes).map (· ++ truncatedMarker)
  else some s

end Codec

/-! ## Differing below keys -/

mutual

/-- Two values that are the same but for what stands below some keys. -/
inductive DifferBelow (keys : Set String) : Value N → Value N → Prop
  | same (value : Value N) : DifferBelow keys value value
  | array {items items' : List (Value N)} (h : DifferItems keys items items') :
      DifferBelow keys (.array items) (.array items')
  | object {members members' : List (String × Value N)} (h : DifferMembers keys members members') :
      DifferBelow keys (.object members) (.object members')

/-- `DifferBelow` of each item. -/
inductive DifferItems (keys : Set String) : List (Value N) → List (Value N) → Prop
  | nil : DifferItems keys [] []
  | cons {item item' : Value N} {items items' : List (Value N)} (h : DifferBelow keys item item')
      (rest : DifferItems keys items items') : DifferItems keys (item :: items) (item' :: items')

/-- `DifferBelow` of each member whose key is none of those. -/
inductive DifferMembers (keys : Set String) :
    List (String × Value N) → List (String × Value N) → Prop
  | nil : DifferMembers keys [] []
  | beneath (key : String) (h : key ∈ keys) (value value' : Value N)
      {members members' : List (String × Value N)} (rest : DifferMembers keys members members') :
      DifferMembers keys ((key, value) :: members) ((key, value') :: members')
  | cons (key : String) {value value' : Value N} (h : DifferBelow keys value value')
      {members members' : List (String × Value N)} (rest : DifferMembers keys members members') :
      DifferMembers keys ((key, value) :: members) ((key, value') :: members')

end

section Redact

variable {keys shown : Set String}

mutual

lemma DifferBelow.redact (hkeys : ∀ key ∈ keys, isSensitiveKey key = false → key ∈ shown)
    (depth : ℕ) :
    ∀ {value value' : Value N}, DifferBelow keys value value' →
      DifferBelow shown (AgentControl.redact depth value) (AgentControl.redact depth value')
  | _, _, .same value => .same _
  | _, _, .array h => by
    rw [redact.eq_def, redact.eq_def]
    split
    · exact .same _
    · exact .array (h.redactItems hkeys depth maxArray)
  | _, _, .object h => by
    rw [redact.eq_def, redact.eq_def]
    split
    · exact .same _
    · exact .object (h.redactMembers hkeys depth maxObjectKeys)

lemma DifferItems.redactItems (hkeys : ∀ key ∈ keys, isSensitiveKey key = false → key ∈ shown)
    (depth : ℕ) : ∀ (count : ℕ) {items items' : List (Value N)}, DifferItems keys items items' →
      DifferItems shown (AgentControl.redactItems depth count items)
        (AgentControl.redactItems depth count items')
  | 0, _, _, _ => by simpa [AgentControl.redactItems] using .nil
  | _ + 1, _, _, .nil => by simpa [AgentControl.redactItems] using .nil
  | count + 1, _, _, .cons h rest => by
    simp only [AgentControl.redactItems]
    exact .cons (h.redact hkeys (depth + 1)) (rest.redactItems hkeys depth count)

lemma DifferMembers.redactMembers (hkeys : ∀ key ∈ keys, isSensitiveKey key = false → key ∈ shown)
    (depth : ℕ) : ∀ (count : ℕ) {members members' : List (String × Value N)},
      DifferMembers keys members members' →
      DifferMembers shown (AgentControl.redactMembers depth count members)
        (AgentControl.redactMembers depth count members')
  | 0, _, _, _ => by simpa [AgentControl.redactMembers] using .nil
  | _ + 1, _, _, .nil => by simpa [AgentControl.redactMembers] using .nil
  | count + 1, _, _, .beneath key hmem value value' rest => by
    simp only [AgentControl.redactMembers]
    cases hsensitive : isSensitiveKey key with
    | true => exact .cons key (.same _) (rest.redactMembers hkeys depth count)
    | false =>
      exact .beneath key (hkeys key hmem hsensitive) _ _ (rest.redactMembers hkeys depth count)
  | count + 1, _, _, .cons key h rest => by
    simp only [AgentControl.redactMembers]
    split
    · exact .cons key (.same _) (rest.redactMembers hkeys depth count)
    · exact .cons key (h.redact hkeys (depth + 1)) (rest.redactMembers hkeys depth count)

end

end Redact

/-! ## Cutting a text -/

section Cut

/-- A character ends after so many bytes. -/
def IsCharBoundary (s : String) (length : ℕ) : Prop :=
  ∃ front back, s = front ++ back ∧ front.utf8ByteSize = length

lemma takeBytes_prefix (budget : ℕ) (chars : List Char) : takeBytes budget chars <+: chars := by
  induction chars generalizing budget with
  | nil => simp [takeBytes]
  | cons c rest ih =>
    rw [takeBytes]
    split
    · exact cons_prefix_cons.mpr ⟨rfl, ih _⟩
    · exact nil_prefix

lemma takeBytes_append {budget : ℕ} {front : List Char} (h : budget ≤ String.utf8Len front)
    (back : List Char) : takeBytes budget (front ++ back) = takeBytes budget front := by
  induction front generalizing budget with
  | nil =>
    obtain rfl : budget = 0 := by simpa using h
    cases back with
    | nil => rfl
    | cons c back => simp [takeBytes, c.utf8Size_pos.ne']
  | cons c front ih =>
    rw [String.utf8Len_cons] at h
    rw [cons_append, takeBytes, takeBytes]
    split
    · rw [ih (by omega)]
    · rfl

lemma takeBytes_self (chars : List Char) : takeBytes (String.utf8Len chars) chars = chars := by
  induction chars with
  | nil => rfl
  | cons c rest ih =>
    rw [takeBytes, String.utf8Len_cons, if_pos (Nat.le_add_left _ _), Nat.add_sub_cancel, ih]

lemma utf8Len_toList (s : String) : String.utf8Len s.toList = s.utf8ByteSize := by
  rw [← String.utf8ByteSize_ofList, String.ofList_toList]

lemma truncate_isSome {s : String} {length : ℕ} :
    (truncate s length).isSome = true ↔ IsCharBoundary s length := by
  rw [truncate]
  split
  case isTrue hsize =>
    refine iff_of_true rfl ?_
    obtain ⟨back, hback⟩ := takeBytes_prefix length s.toList
    refine ⟨String.ofList (takeBytes length s.toList), String.ofList back, ?_, hsize⟩
    rw [← String.ofList_append, hback, String.ofList_toList]
  case isFalse hsize =>
    refine iff_of_false (by simp) ?_
    rintro ⟨front, back, rfl, rfl⟩
    apply hsize
    rw [String.toList_append, takeBytes_append (utf8Len_toList front).ge, ← utf8Len_toList front,
      takeBytes_self, String.utf8ByteSize_ofList]

lemma utf8ByteSize_truncate {s kept : String} {length : ℕ} (h : truncate s length = some kept) :
    kept.utf8ByteSize = length := by
  rw [truncate] at h
  split at h
  case isTrue hsize => rwa [Option.some.inj h] at hsize
  case isFalse => cases h

lemma truncate_append {front : String} {length : ℕ} (h : length ≤ front.utf8ByteSize)
    (back back' : String) : truncate (front ++ back) length = truncate (front ++ back') length := by
  rw [← utf8Len_toList] at h
  rw [truncate, truncate, String.toList_append, String.toList_append, takeBytes_append h,
    takeBytes_append h]

end Cut

/-! ## What the library writes -/

/-- Each text after a comma. -/
def commaBefore : List String → String
  | [] => ""
  | text :: rest => "," ++ text ++ commaBefore rest

/-- Texts with commas between. -/
def commaSeparated : List String → String
  | [] => ""
  | text :: rest => text ++ commaBefore rest

/-- A character that is written as it is. -/
def isPlain (c : Char) : Bool := 32 ≤ c.toNat && c.toNat ≤ 126 && c.toNat != 34 && c.toNat != 92

namespace Codec

/-- The text of a member. -/
def memberText (codec : Codec N) (member : String × Value N) : String :=
  codec.text (.string member.1) ++ ":" ++ codec.text member.2

/-- What the library is relied on to write: brackets and commas and nothing between them, a text of
plain characters between quotes, and a digit as itself. -/
structure Compact (codec : Codec N) : Prop where
  null : codec.text .null = "null"
  bool : ∀ value, codec.text (.bool value) = if value then "true" else "false"
  number : ∀ value, 0 < codec.jsonLen (.number value)
  zero : ∃ zero, codec.text (.number zero) = "0"
  one : ∃ one, codec.text (.number one) = "1"
  string : ∀ value, ∃ escaped, codec.text (.string value) = "\"" ++ escaped ++ "\""
  plain : ∀ value : String, value.toList.all isPlain = true →
    codec.text (.string value) = "\"" ++ value ++ "\""
  array : ∀ items, codec.text (.array items) = "[" ++ commaSeparated (items.map codec.text) ++ "]"
  object : ∀ members,
    codec.text (.object members) = "\x7b" ++ commaSeparated (members.map codec.memberText) ++ "\x7d"

/-- A key whose value is never shown: an object with it is larger than a result may be.
Source: `audit.rs`, `MAX_RESULT_JSON_BYTES` -/
def TooLong (codec : Codec N) (key : String) : Prop :=
  maxResultJsonBytes < codec.jsonLen (.string key) + 4

/-- The outputs say nothing of what stands below some keys. -/
def Hides (codec : Codec N) (keys : Set String) : Prop :=
  ∀ value value', DifferBelow keys value value' →
    codec.sanitize value = codec.sanitize value' ∧
      codec.sanitizeValue value = codec.sanitizeValue value'

end Codec

/-! ## Texts that part late -/

/-- Two texts that begin alike for all of a summary, and are both too large. -/
def Apart (bound : ℕ) (text text' : String) : Prop :=
  ∃ front back back', text = front ++ back ∧ text' = front ++ back' ∧
    maxSummaryBytes ≤ front.utf8ByteSize ∧ bound < text.utf8ByteSize ∧ bound < text'.utf8ByteSize

section Apart

variable {bound : ℕ} {text text' : String}

lemma Apart.prepend (before : String) (h : Apart bound text text') :
    Apart (before.utf8ByteSize + bound) (before ++ text) (before ++ text') := by
  obtain ⟨front, back, back', rfl, rfl, hfront, hlarge, hlarge'⟩ := h
  refine ⟨before ++ front, back, back', ?_, ?_, ?_, ?_, ?_⟩
  · rw [String.append_assoc]
  · rw [String.append_assoc]
  · rw [String.utf8ByteSize_append]
    omega
  · rw [String.utf8ByteSize_append]
    omega
  · rw [String.utf8ByteSize_append]
    omega

lemma Apart.append (h : Apart bound text text') {after after' : String} {more : ℕ}
    (hmore : more ≤ after.utf8ByteSize) (hmore' : more ≤ after'.utf8ByteSize) :
    Apart (bound + more) (text ++ after) (text' ++ after') := by
  obtain ⟨front, back, back', rfl, rfl, hfront, hlarge, hlarge'⟩ := h
  refine ⟨front, back ++ after, back' ++ after', ?_, ?_, hfront, ?_, ?_⟩
  · rw [String.append_assoc]
  · rw [String.append_assoc]
  · rw [String.utf8ByteSize_append]
    omega
  · rw [String.utf8ByteSize_append]
    omega

lemma Apart.mono {least : ℕ} (h : Apart bound text text') (hle : least ≤ bound) :
    Apart least text text' := by
  obtain ⟨front, back, back', htext, htext', hfront, hlarge, hlarge'⟩ := h
  exact ⟨front, back, back', htext, htext', hfront, hle.trans_lt hlarge, hle.trans_lt hlarge'⟩

lemma Apart.commaBefore {texts texts' : List String}
    (h : Apart bound (commaSeparated texts) (commaSeparated texts')) :
    Apart bound (commaBefore texts) (commaBefore texts') := by
  cases texts with
  | nil =>
    obtain ⟨_, _, _, _, _, _, hlarge, _⟩ := h
    simp [commaSeparated] at hlarge
  | cons text texts =>
    cases texts' with
    | nil =>
      obtain ⟨_, _, _, _, _, _, _, hlarge⟩ := h
      simp [commaSeparated] at hlarge
    | cons text' texts' =>
      have hcomma := (h.prepend ",").mono (Nat.le_add_left _ _)
      simpa only [AgentControl.commaBefore, commaSeparated, String.append_assoc] using hcomma

lemma Apart.first (h : Apart bound text text') (texts texts' : List String) :
    Apart bound (commaSeparated (text :: texts)) (commaSeparated (text' :: texts')) :=
  h.append (Nat.zero_le _) (Nat.zero_le _)

lemma Apart.later {texts texts' : List String}
    (h : Apart bound (commaSeparated texts) (commaSeparated texts')) (text : String) :
    Apart bound (commaSeparated (text :: texts)) (commaSeparated (text :: texts')) :=
  (h.commaBefore.prepend text).mono (Nat.le_add_left _ _)

end Apart

namespace Codec.Compact

variable {codec : Codec N}

lemma utf8ByteSize_memberText (member : String × Value N) :
    (codec.memberText member).utf8ByteSize =
      codec.jsonLen (.string member.1) + 1 + codec.jsonLen member.2 := by
  rw [memberText, String.utf8ByteSize_append, String.utf8ByteSize_append]
  rfl

lemma jsonLen_pos (hcodec : codec.Compact) (value : Value N) : 0 < codec.jsonLen value := by
  have hquote : "\"".utf8ByteSize = 1 := rfl
  have hbracket : "[".utf8ByteSize = 1 := rfl
  have hbrace : "\x7b".utf8ByteSize = 1 := rfl
  cases value with
  | null =>
    rw [jsonLen, hcodec.null]
    decide
  | bool value =>
    rw [jsonLen, hcodec.bool]
    cases value <;> decide
  | number value => exact hcodec.number value
  | string value =>
    obtain ⟨escaped, hescaped⟩ := hcodec.string value
    rw [jsonLen, hescaped, String.utf8ByteSize_append, String.utf8ByteSize_append]
    omega
  | array items =>
    rw [jsonLen, hcodec.array, String.utf8ByteSize_append, String.utf8ByteSize_append]
    omega
  | object members =>
    rw [jsonLen, hcodec.object, String.utf8ByteSize_append, String.utf8ByteSize_append]
    omega

lemma apart_memberText (hcodec : codec.Compact) {key : String} (hkey : codec.TooLong key)
    (value value' : Value N) :
    Apart (maxResultJsonBytes - 2) (codec.memberText (key, value))
      (codec.memberText (key, value')) := by
  have hpos := hcodec.jsonLen_pos value
  have hpos' := hcodec.jsonLen_pos value'
  have hcolon : ":".utf8ByteSize = 1 := rfl
  simp only [TooLong, maxResultJsonBytes] at hkey
  refine ⟨codec.text (.string key) ++ ":", _, _, rfl, rfl, ?_, ?_, ?_⟩
  · rw [String.utf8ByteSize_append, maxSummaryBytes]
    simp only [jsonLen] at hkey
    omega
  · rw [utf8ByteSize_memberText, maxResultJsonBytes]
    dsimp only
    omega
  · rw [utf8ByteSize_memberText, maxResultJsonBytes]
    dsimp only
    omega

mutual

lemma apart (hcodec : codec.Compact) : ∀ {value value' : Value N},
    DifferBelow {key | codec.TooLong key} value value' →
      value = value' ∨ Apart maxResultJsonBytes (codec.text value) (codec.text value')
  | _, _, .same value => .inl rfl
  | _, _, .array h => by
    rcases hcodec.apart_items h with rfl | hitems
    · exact .inl rfl
    · right
      rw [hcodec.array, hcodec.array]
      exact ((hitems.prepend "[").append (Nat.zero_le _) (Nat.zero_le _)).mono (by omega)
  | _, _, .object h => by
    rcases hcodec.apart_members h with rfl | hmembers
    · exact .inl rfl
    · right
      rw [hcodec.object, hcodec.object]
      exact ((hmembers.prepend "\x7b").append le_rfl le_rfl).mono (by decide)

lemma apart_items (hcodec : codec.Compact) : ∀ {items items' : List (Value N)},
    DifferItems {key | codec.TooLong key} items items' →
      items = items' ∨ Apart maxResultJsonBytes (commaSeparated (items.map codec.text))
        (commaSeparated (items'.map codec.text))
  | _, _, .nil => .inl rfl
  | _, _, .cons h rest => by
    rcases hcodec.apart h with rfl | happart
    · rcases hcodec.apart_items rest with rfl | hrest
      · exact .inl rfl
      · exact .inr (hrest.later _)
    · exact .inr (happart.first _ _)

lemma apart_members (hcodec : codec.Compact) : ∀ {members members' : List (String × Value N)},
    DifferMembers {key | codec.TooLong key} members members' →
      members = members' ∨ Apart (maxResultJsonBytes - 2)
        (commaSeparated (members.map codec.memberText)) (commaSeparated (members'.map codec.memberText))
  | _, _, .nil => .inl rfl
  | _, _, .beneath key hkey value value' _ =>
    .inr ((hcodec.apart_memberText hkey value value').first _ _)
  | _, _, .cons key h rest => by
    rcases hcodec.apart h with rfl | happart
    · rcases hcodec.apart_members rest with rfl | hrest
      · exact .inl rfl
      · exact .inr (hrest.later _)
    · have hmember := happart.prepend (codec.text (.string key) ++ ":")
      exact .inr ((hmember.mono (by omega)).first _ _)

end

/-! ## How large the outputs are -/

lemma jsonLen_plain (hcodec : codec.Compact) {value : String} (h : value.toList.all isPlain = true) :
    codec.jsonLen (.string value) = value.utf8ByteSize + 2 := by
  have hquote : "\"".utf8ByteSize = 1 := rfl
  rw [jsonLen, hcodec.plain value h, String.utf8ByteSize_append, String.utf8ByteSize_append]
  omega

lemma jsonLen_object_le (hcodec : codec.Compact) (members : List (String × Value N)) :
    codec.jsonLen (.object members) ≤
      (members.map fun member => (codec.memberText member).utf8ByteSize + 1).sum + 2 := by
  have hbefore : ∀ texts : List String, (commaBefore texts).utf8ByteSize =
      (texts.map fun text => text.utf8ByteSize + 1).sum := by
    intro texts
    induction texts with
    | nil => rfl
    | cons text texts ih =>
      have hcomma : ",".utf8ByteSize = 1 := rfl
      rw [commaBefore, String.utf8ByteSize_append, String.utf8ByteSize_append, ih, map_cons,
        sum_cons]
      omega
  have hseparated : ∀ texts : List String, (commaSeparated texts).utf8ByteSize ≤
      (texts.map fun text => text.utf8ByteSize + 1).sum := by
    intro texts
    cases texts with
    | nil => exact Nat.zero_le _
    | cons text texts =>
      rw [commaSeparated, String.utf8ByteSize_append, hbefore, map_cons, sum_cons]
      omega
  have hmembers := hseparated (members.map codec.memberText)
  rw [map_map] at hmembers
  have hopen : "\x7b".utf8ByteSize = 1 := rfl
  have hclose : "\x7d".utf8ByteSize = 1 := rfl
  rw [jsonLen, hcodec.object, String.utf8ByteSize_append, String.utf8ByteSize_append]
  simp only [Function.comp_def] at hmembers
  omega

lemma kept_le (hcodec : codec.Compact) (members : List (String × Value N)) (keys : List String)
    (hkeys : ∀ key ∈ keys, key.toList.all isPlain = true) :
    ((keys.filterMap fun key =>
        (members.find? fun member => member.1 = key && decide (codec.jsonLen member.2 ≤ 512)).map
          fun member => (key, member.2)).map
      fun member => (codec.memberText member).utf8ByteSize + 1).sum ≤
      (keys.map fun key => key.utf8ByteSize + 516).sum := by
  induction keys with
  | nil => exact Nat.le_refl _
  | cons key keys ih =>
    have hrest := ih fun other hother => hkeys other (mem_cons_of_mem _ hother)
    rw [filterMap_cons, map_cons, sum_cons]
    cases hfind : members.find? fun member => member.1 =
      key && decide (codec.jsonLen member.2 ≤ 512) with
    | none =>
      rw [Option.map_none]
      exact hrest.trans (Nat.le_add_left _ _)
    | some member =>
      have hsmall : codec.jsonLen member.2 ≤ 512 := by
        have := List.find?_some hfind
        simpa using (Bool.and_eq_true_iff.mp this).2
      have hkey := hcodec.jsonLen_plain (hkeys key mem_cons_self)
      rw [Option.map_some, map_cons, sum_cons, utf8ByteSize_memberText, hkey]
      exact Nat.add_le_add (by dsimp only; omega) hrest

lemma jsonLen_omitted (hcodec : codec.Compact) : codec.jsonLen (omitted : Value N) = 48 := by
  have hplain : "[omitted: redacted result exceeded 4096 bytes]".toList.all isPlain = true := by
    decide
  rw [omitted, hcodec.jsonLen_plain hplain]
  rfl

lemma jsonLen_sanitizeValue (hcodec : codec.Compact) (value : Value N) :
    codec.jsonLen (codec.sanitizeValue value) ≤ maxResultJsonBytes := by
  rw [sanitizeValue]
  split
  case isTrue hsmall => exact hsmall
  case isFalse =>
    have homitted := hcodec.jsonLen_omitted
    split
    · rename_i members _
      have hkept := hcodec.kept_le members ["success", "ok", "error", "code", "message", "status"]
        (by decide)
      have hdata : codec.jsonLen (.string "data" : Value N) = 6 := hcodec.jsonLen_plain (by decide)
      have hsorted := hcodec.jsonLen_object_le
        (Value.sortKeys (codec.keptMembers members ++ [("data", omitted)]))
      rw [Value.sortKeys, ((mergeSort_perm _ _).map _).sum_eq, map_append, sum_append,
        map_singleton, sum_singleton] at hsorted
      have hlimit : ((["success", "ok", "error", "code", "message", "status"]).map
          fun key => key.utf8ByteSize + 516).sum = 3127 := by
        rfl
      rw [hlimit] at hkept
      rw [utf8ByteSize_memberText, hdata, homitted] at hsorted
      rw [maxResultJsonBytes, Value.sortKeys]
      rw [keptMembers] at hsorted ⊢
      omega
    · rw [homitted, maxResultJsonBytes]
      omega

/-! ## What is hidden -/

lemma kept_eq (hcodec : codec.Compact) {name : String} (hname : ¬ codec.TooLong name) :
    ∀ {members members' : List (String × Value N)},
      DifferMembers {key | codec.TooLong key} members members' →
      (members.find? fun member => member.1 = name && decide (codec.jsonLen member.2 ≤ 512)).map
          (fun member => (name, member.2)) =
        (members'.find? fun member => member.1 = name && decide (codec.jsonLen member.2 ≤ 512)).map
          (fun member => (name, member.2))
  | _, _, .nil => rfl
  | _, _, .beneath key hkey value value' rest => by
    have hne : key ≠ name := fun heq => hname (heq ▸ hkey)
    simp only [List.find?_cons, hne, decide_false, Bool.false_and]
    exact hcodec.kept_eq hname rest
  | _, _, .cons key h rest => by
    have hrest := hcodec.kept_eq hname rest
    rcases hcodec.apart h with rfl | ⟨_, _, _, _, _, _, hlarge, hlarge'⟩
    · simp only [List.find?_cons]
      split
      · rfl
      · exact hrest
    · -- both are too large to be kept
      have hnot : ∀ value : Value N, maxResultJsonBytes < (codec.text value).utf8ByteSize →
          decide (codec.jsonLen value ≤ 512) = false := by
        intro value hlarge
        rw [decide_eq_false_iff_not, jsonLen]
        simp only [maxResultJsonBytes] at hlarge
        omega
      simp only [List.find?_cons, hnot _ hlarge, hnot _ hlarge', Bool.and_false]
      exact hrest

lemma keptMembers_eq (hcodec : codec.Compact) {members members' : List (String × Value N)}
    (h : DifferMembers {key | codec.TooLong key} members members') :
    codec.keptMembers members = codec.keptMembers members' := by
  refine filterMap_congr fun name hname => hcodec.kept_eq ?_ h
  have hshort : ∀ name ∈ ["success", "ok", "error", "code", "message", "status"],
      name.toList.all isPlain = true ∧ name.utf8ByteSize ≤ 7 := by
    decide
  obtain ⟨hplain, hsize⟩ := hshort name hname
  rw [TooLong, hcodec.jsonLen_plain hplain, maxResultJsonBytes]
  omega

lemma outputs_eq (hcodec : codec.Compact) {value value' : Value N}
    (h : DifferBelow {key | codec.TooLong key} (redact 0 value) (redact 0 value')) :
    codec.sanitize value = codec.sanitize value' ∧
      codec.sanitizeValue value = codec.sanitizeValue value' := by
  rcases hcodec.apart h with heq | ⟨front, back, back', htext, htext', hfront, hlarge, hlarge'⟩
  · rw [sanitize, sanitize, sanitizeValue, sanitizeValue, heq]
    exact ⟨rfl, rfl⟩
  · constructor
    · have hcut : ∀ text : String, maxResultJsonBytes < text.utf8ByteSize →
          maxSummaryBytes < text.utf8ByteSize := by
        intro text
        simp only [maxResultJsonBytes, maxSummaryBytes]
        omega
      rw [sanitize, sanitize, if_pos (hcut _ hlarge), if_pos (hcut _ hlarge'), htext, htext',
        truncate_append hfront back back']
    · have hcollapse : ∀ value : Value N, maxResultJsonBytes < (codec.text value).utf8ByteSize →
          ¬ codec.jsonLen value ≤ maxResultJsonBytes := fun _ hlarge => not_le.mpr hlarge
      rw [sanitizeValue, sanitizeValue, if_neg (hcollapse _ hlarge), if_neg (hcollapse _ hlarge')]
      generalize redact 0 value = redacted at h
      generalize redact 0 value' = redacted' at h
      cases h with
      | same => rfl
      | array => rfl
      | object hmembers =>
        dsimp only
        rw [hcodec.keptMembers_eq hmembers]

lemma shown (hcodec : codec.Compact) {keys : Set String} {key : String} (hkey : key ∈ keys)
    (hsensitive : isSensitiveKey key = false) (hlong : ¬ codec.TooLong key) : ∃ value value' : Value N,
      DifferBelow keys value value' ∧ codec.sanitizeValue value ≠ codec.sanitizeValue value' := by
  obtain ⟨zero, hzero⟩ := hcodec.zero
  obtain ⟨one, hone⟩ := hcodec.one
  have hwhole : ∀ digit : N, codec.jsonLen (.number digit) = 1 →
      codec.sanitizeValue (.object [(key, .number digit)]) = .object [(key, .number digit)] := by
    intro digit hdigit
    have hredact : redact 0 (.object [(key, .number digit)]) = .object [(key, .number digit)] := by
      simp [redact, redactMembers, hsensitive, maxDepth, maxObjectKeys]
    have hsize : codec.jsonLen (.object [(key, .number digit)]) = codec.jsonLen (.string key) + 4 := by
      have hopen : "\x7b".utf8ByteSize = 1 := rfl
      have hclose : "\x7d".utf8ByteSize = 1 := rfl
      have hmember : (codec.memberText (key, .number digit)).utf8ByteSize =
          codec.jsonLen (.string key) + 1 + 1 := by
        rw [utf8ByteSize_memberText, hdigit]
      rw [jsonLen, hcodec.object, map_singleton, commaSeparated, commaBefore, String.append_empty,
        String.utf8ByteSize_append, String.utf8ByteSize_append, hmember]
      omega
    rw [sanitizeValue, hredact, if_pos]
    rw [hsize]
    exact not_lt.mp hlong
  refine ⟨.object [(key, .number zero)], .object [(key, .number one)],
    .object (.beneath key hkey _ _ .nil), ?_⟩
  rw [hwhole zero (by rw [jsonLen, hzero]; rfl), hwhole one (by rw [jsonLen, hone]; rfl)]
  intro heq
  simp only [Value.object.injEq, List.cons.injEq, Prod.mk.injEq, true_and, and_true] at heq
  rw [heq, hone] at hzero
  exact absurd hzero (by decide)

lemma hides_iff (hcodec : codec.Compact) (keys : Set String) :
    codec.Hides keys ↔ ∀ key ∈ keys, isSensitiveKey key = true ∨ codec.TooLong key := by
  constructor
  · intro h key hkey
    by_contra hneither
    rw [not_or, Bool.not_eq_true] at hneither
    obtain ⟨value, value', hdiffer, hne⟩ := hcodec.shown hkey hneither.1 hneither.2
    exact hne (h value value' hdiffer).2
  · intro h value value' hdiffer
    refine hcodec.outputs_eq (hdiffer.redact ?_ 0)
    intro key hkey hsensitive
    rcases h key hkey with hyes | hlong
    · rw [hsensitive] at hyes
      cases hyes
    · exact hlong

end Codec.Compact

/-- A summary is cut cleanly: it is short, or a character ends where it is cut. -/
def Codec.CutsClean (codec : Codec N) (value : Value N) : Prop :=
  codec.jsonLen (redact 0 value) ≤ maxSummaryBytes ∨
    IsCharBoundary (codec.text (redact 0 value)) maxSummaryBytes

lemma Codec.sanitize_returns (codec : Codec N) (value : Value N) :
    (∃ summary, codec.sanitize value = some summary ∧
      summary.utf8ByteSize ≤ maxSummaryBytes + truncatedMarker.utf8ByteSize) ↔
      codec.CutsClean value := by
  rw [CutsClean, jsonLen, ← truncate_isSome, sanitize]
  split
  case isTrue hlong =>
    rw [or_iff_right (not_le.mpr hlong)]
    cases hcut : truncate (codec.text (redact 0 value)) maxSummaryBytes with
    | none => simp
    | some kept =>
      refine iff_of_true ⟨kept ++ truncatedMarker, rfl, ?_⟩ rfl
      rw [String.utf8ByteSize_append, utf8ByteSize_truncate hcut]
  case isFalse hshort =>
    have hfits := not_lt.mp hshort
    exact iff_of_true ⟨_, rfl, hfits.trans (Nat.le_add_right _ _)⟩ (Or.inl hfits)

/-- **Audit redaction**: a summary is returned, and within its bound, exactly when it is cut
cleanly; a stored result is always within its bound; and what stands below some keys is hidden
exactly when each is sensitive or too long. -/
theorem Codec.sanitize_spec (codec : Codec N) (hcodec : codec.Compact) :
    (∀ value, (∃ summary, codec.sanitize value = some summary ∧
        summary.utf8ByteSize ≤ maxSummaryBytes + truncatedMarker.utf8ByteSize) ↔
      codec.CutsClean value) ∧
    (∀ value, codec.jsonLen (codec.sanitizeValue value) ≤ maxResultJsonBytes) ∧
    ∀ keys, codec.Hides keys ↔ ∀ key ∈ keys, isSensitiveKey key = true ∨ codec.TooLong key :=
  ⟨codec.sanitize_returns, hcodec.jsonLen_sanitizeValue, hcodec.hides_iff⟩

/-! ### A library that writes as it should -/

/-- How a character stands between quotes. -/
def escapeChar (c : Char) : List Char :=
  if isPlain c || 126 < c.toNat then [c]
  else if c.toNat = 8 then "\\b".toList
  else if c.toNat = 9 then "\\t".toList
  else if c.toNat = 10 then "\\n".toList
  else if c.toNat = 12 then "\\f".toList
  else if c.toNat = 13 then "\\r".toList
  else if c.toNat < 32 then
    "\\u00".toList ++ [Nat.digitChar (c.toNat / 16), Nat.digitChar (c.toNat % 16)]
  else "\\".toList ++ [c]

mutual

/-- The text of a value whose numbers are counts. -/
def write : Value ℕ → String
  | .null => "null"
  | .bool value => if value then "true" else "false"
  | .number value => value.repr
  | .string value => "\"" ++ String.ofList (value.toList.flatMap escapeChar) ++ "\""
  | .array items => "[" ++ commaSeparated (writeItems items) ++ "]"
  | .object members => "\x7b" ++ commaSeparated (writeMembers members) ++ "\x7d"

/-- The text of each item. -/
def writeItems : List (Value ℕ) → List String
  | [] => []
  | item :: items => write item :: writeItems items

/-- The text of each member. -/
def writeMembers : List (String × Value ℕ) → List String
  | [] => []
  | (key, value) :: members =>
    ("\"" ++ String.ofList (key.toList.flatMap escapeChar) ++ "\"" ++ ":" ++ write value) ::
      writeMembers members

end

/-- A library that writes so; nothing here is read. -/
def countCodec : Codec ℕ := ⟨write, fun _ => none⟩

lemma compact_countCodec : countCodec.Compact where
  null := rfl
  bool _ := rfl
  number value := by
    rw [Codec.jsonLen, Nat.pos_iff_ne_zero, ne_eq, String.utf8ByteSize_eq_zero_iff]
    exact Nat.repr_ne_empty
  zero := ⟨0, rfl⟩
  one := ⟨1, rfl⟩
  string value := ⟨_, rfl⟩
  plain value h := by
    have hsame : ∀ chars : List Char, chars.all isPlain = true → chars.flatMap escapeChar = chars := by
      intro chars hchars
      induction chars with
      | nil => rfl
      | cons c chars ih =>
        rw [all_cons, Bool.and_eq_true] at hchars
        rw [flatMap_cons, ih hchars.2, escapeChar, hchars.1]
        rfl
    change "\"" ++ String.ofList (value.toList.flatMap escapeChar) ++ "\"" = _
    rw [hsame _ h, String.ofList_toList]
  array items := by
    have hitems : writeItems items = items.map write := by
      induction items with
      | nil => rfl
      | cons item items ih => rw [writeItems, ih, map_cons]
    change "[" ++ commaSeparated (writeItems items) ++ "]" = _
    rw [hitems]
    rfl
  object members := by
    have hmembers : writeMembers members = members.map countCodec.memberText := by
      induction members with
      | nil => rfl
      | cons member members ih =>
        rw [writeMembers, ih, map_cons]
        rfl
    change "\x7b" ++ commaSeparated (writeMembers members) ++ "\x7d" = _
    rw [hmembers]

/-- What the outputs of that library are. -/
theorem Codec.sanitize_spec_counts :
    (∀ value, (∃ summary, countCodec.sanitize value = some summary ∧
        summary.utf8ByteSize ≤ maxSummaryBytes + truncatedMarker.utf8ByteSize) ↔
      countCodec.CutsClean value) ∧
    (∀ value, countCodec.jsonLen (countCodec.sanitizeValue value) ≤ maxResultJsonBytes) ∧
    ∀ keys, countCodec.Hides keys ↔
      ∀ key ∈ keys, isSensitiveKey key = true ∨ countCodec.TooLong key :=
  Codec.sanitize_spec countCodec compact_countCodec

/-- The letters and digits of a key, in lower case. -/
def squeezed (key : String) : List Char := (key.toList.filter Char.isAlphanum).map Char.toLower

/-- A key spells the name of a secret, in whatever case and with whatever separators. -/
def SpellsSecret (key : String) : Prop :=
  String.ofList (squeezed key) ∈ sensitiveSegments ∨
    ∃ name ∈ ["secret", "mnemonic", "passphrase"], name.toList <:+: squeezed key

/-- What is called an API key is shown when the two words stand apart. -/
theorem Codec.not_hides :
    ¬ ∀ codec : Codec ℕ, codec.Compact →
      (∀ value, ∃ summary, codec.sanitize value = some summary ∧
        summary.utf8ByteSize ≤ maxSummaryBytes + truncatedMarker.utf8ByteSize) ∧
      (∀ value, codec.jsonLen (codec.sanitizeValue value) ≤ maxResultJsonBytes) ∧
      codec.Hides {key | SpellsSecret key} := by
  intro h
  have hhides := (h countCodec compact_countCodec).2.2
  rw [compact_countCodec.hides_iff] at hhides
  have hspells : SpellsSecret "api_key" := by
    left
    decide
  rcases hhides "api_key" hspells with hsensitive | hlong
  · exact absurd hsensitive (by decide)
  · have hshort : ¬ maxResultJsonBytes < countCodec.jsonLen (.string "api_key") + 4 := by
      decide
    exact hshort hlong

end Dripline.AgentControl
