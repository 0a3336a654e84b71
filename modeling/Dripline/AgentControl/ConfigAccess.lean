import Mathlib.Data.List.DropRight
import Dripline.AgentControl.Json
import Dripline.Found.Trace
import Dripline.Swaps.Error

/-!
# Access to the configuration

`agent_control/config_access.rs`. What the schema writes, reads and checks of the sections, and
whether the file is saved, are parameters.

* `sealed_iff` — exactly when the file can be saved after every change.

A source without a file is in `config_access.rs`, where a definition without a comment is the one
of its name.
-/

namespace Dripline.AgentControl.ConfigAccess

open List

open Dripline.Swaps (isWhitespace)
open Dripline.Found.Trace (Throughout)

variable {N R : Type}

def redacted : String := "[redacted]"

def secretPaths : List String := ["wallet_encrypted", "wallet_nonce"]

/-- Source: `agent_control/error.rs`, `Error`, with the texts of what it is made from -/
inductive Error
  | notLoaded
  | config (detail : String)
  | secretPath (path : String)
  | invalidParameters (detail : String)

/-! ## Paths -/

/-- `str::trim`. -/
def trim (text : String) : String :=
  String.ofList ((text.toList.dropWhile isWhitespace).rdropWhile isWhitespace)

/-- `str::starts_with`. -/
def startsWith (text start : String) : Bool := start.toList.isPrefixOf text.toList

/-- Source: `path.split('.')` -/
def segments (path : String) : List String := (path.toList.splitOn '.').map String.ofList

/-- `str::parse::<usize>`. -/
def parseUsize (text : String) : Option ℕ :=
  let digits : List Char := match text.toList with
    | '+' :: rest => rest
    | all => all
  let value : ℕ := digits.foldl (fun value digit => 10 * value + (digit.toNat - '0'.toNat)) 0
  if digits ≠ [] ∧ digits.all Char.isDigit ∧ value < 2 ^ 64 then some value else none

def touchesSecret (path : String) : Bool :=
  let path := trim path
  path == "" || secretPaths.any fun secret =>
    path == secret || startsWith path (secret ++ ".") || startsWith secret (path ++ ".")

/-- Source: `child_keys`; a map has its keys in order -/
def childKeys : Value N → List String
  | .object members => (members.map Prod.fst).mergeSort (fun a b => decide (a ≤ b))
  | .array items => (List.range items.length).map toString
  | .null | .bool _ | .number _ | .string _ => []

def unknownPath (path walked : String) (parent : Value N) : Error :=
  let location := if walked = "" then "the configuration root" else "'" ++ walked ++ "'"
  .invalidParameters ("unknown config path '" ++ path ++ "': " ++ location ++
    " has no such key. Available: " ++ ", ".intercalate (childKeys parent))

/-- The path so far. Source: `walked` -/
def walk (walked segment : String) : String :=
  (if walked = "" then "" else walked ++ ".") ++ segment

/-- What a segment names: a key, or an index. -/
def child (value : Value N) (segment : String) : Option (Value N) :=
  match value with
  | .object members => members.lookup segment
  | .array items => (parseUsize segment).bind (items[·]?)
  | .null | .bool _ | .number _ | .string _ => none

/-- The members with another value under a key. -/
def replaceMember (members : List (String × Value N)) (key : String) (new : Value N) :
    List (String × Value N) :=
  members.map fun member => if member.1 = key then (key, new) else member

/-- The value with another child. -/
def replaceChild (value : Value N) (segment : String) (new : Value N) : Value N :=
  match value with
  | .object members => .object (replaceMember members segment new)
  | .array items => .array ((parseUsize segment).elim items fun index => items.set index new)
  | other => other

/-- The walk of `resolve`, from some value on. -/
def resolveFrom (path walked : String) (current : Value N) : List String → Except Error (Value N)
  | [] => .ok current
  | segment :: rest =>
    match child current segment with
    | some next => resolveFrom path (walk walked segment) next rest
    | none => .error (unknownPath path walked current)

def resolve (root : Value N) (path : String) : Except Error (Value N) :=
  resolveFrom path "" root (segments path)

/-- The walk of `setAt`, from some value on: what was there, and the value with the new one. -/
def setFrom (path : String) (new : Value N) (walked : String) (current : Value N) :
    String → List String → Except Error (Value N × Value N)
  | segment, rest =>
    match child current segment with
    | none => .error (unknownPath path walked current)
    | some inner =>
      match rest with
      | [] => .ok (inner, replaceChild current segment new)
      | next :: rest =>
        (setFrom path new (walk walked segment) inner next rest).map fun result =>
          (result.1, replaceChild current segment result.2)

/-- What was there, and the root with the new value. -/
def setAt (root : Value N) (path : String) (new : Value N) : Except Error (Value N × Value N) :=
  match segments path with
  | [] => .error (unknownPath path "" root)
  | segment :: rest => setFrom path new "" root segment rest

/-! ## The configuration -/

/-- Source: `config/schemas/mod.rs` -/
structure Config (R : Type) where
  walletEncrypted : String
  walletNonce : String
  sections : R

/-- How the sections are written as JSON, read from it, and checked. No section has the name of a
secret. Source: `config_struct!`, `config/utils.rs`, `validate_config` -/
structure Schema (N R : Type) where
  members : R → Except String (List (String × Value N))
  parse : List (String × Value N) → Except String R
  validate : R → Except String Unit
  apart : ∀ sections found, members sections = .ok found → ∀ member ∈ found, member.1 ∉ secretPaths

/-- The key material at the root, before the other members. -/
def rootOf (walletEncrypted walletNonce : String) (members : List (String × Value N)) : Value N :=
  .object (("wallet_encrypted", .string walletEncrypted) ::
    ("wallet_nonce", .string walletNonce) :: members)

/-- A field of text; a field that is not there has its default. -/
def textField (members : List (String × Value N)) (key : String) : Except String String :=
  match members.lookup key with
  | none => .ok ""
  | some (.string text) => .ok text
  | some _ => .error "invalid type, expected a string"

structure AppliedChange (N : Type) where
  path : String
  previous : Value N
  value : Value N

namespace Schema

variable (schema : Schema N R)

/-- Source: `serde_json::to_value` of a `Config` -/
def toValue (config : Config R) : Except Error (Value N) :=
  match schema.members config.sections with
  | .ok members => .ok (rootOf config.walletEncrypted config.walletNonce members)
  | .error detail => .error (.invalidParameters ("configuration could not be serialized: " ++ detail))

/-- Source: `serde_json::from_value` of a `Config` -/
def fromValue : Value N → Except String (Config R)
  | .object members => do
    let walletEncrypted ← textField members "wallet_encrypted"
    let walletNonce ← textField members "wallet_nonce"
    let sections ← schema.parse (members.filter fun member => !secretPaths.contains member.1)
    return ⟨walletEncrypted, walletNonce, sections⟩
  | _ => .error "invalid type, expected struct Config"

def snapshot (active : Option (Config R)) : Except Error (Value N) :=
  match active with
  | none => .error .notLoaded
  | some config => schema.toValue config

end Schema

/-- What agents see of a member. -/
def redactMember (member : String × Value N) : String × Value N :=
  if secretPaths.contains member.1 then
    match member.2 with
    | .string "" => member
    | _ => (member.1, .string redacted)
  else member

def redact : Value N → Value N
  | .object members => .object (members.map redactMember)
  | other => other

namespace Schema

variable (schema : Schema N R)

def read (active : Option (Config R)) (path : Option String) : Except Error (Value N) := do
  let root ← schema.snapshot active
  match (path.map trim).filter (· ≠ "") with
  | some path => resolve (redact root) path
  | none => return redact root

/-- Source: `build_updated`, the loop over the updates -/
def applyUpdates (working : Value N) :
    List (String × Value N) → Except Error (Value N × List (AppliedChange N))
  | [] => .ok (working, [])
  | (path, value) :: updates =>
    match setAt working (trim path) value with
    | .error error => .error error
    | .ok (previous, working) =>
      (applyUpdates working updates).map fun result =>
        (result.1, ⟨trim path, previous, value⟩ :: result.2)

def buildUpdated (current : Config R) (updates : List (String × Value N)) :
    Except Error (Config R × List (AppliedChange N)) := do
  let working ← schema.toValue current
  let (working, applied) ← applyUpdates working updates
  match schema.fromValue working with
  | .error detail => .error (.invalidParameters ("rejected by the configuration schema: " ++ detail))
  | .ok candidate =>
    match schema.validate candidate.sections with
    | .error detail => .error (.config detail)
    | .ok () => return (candidate, applied)

/-- The configuration that is active then, and the answer. -/
def apply (active : Option (Config R)) (updates : List (String × Value N))
    (saved : Except String Unit) :
    Option (Config R) × Except Error (List (AppliedChange N)) :=
  if updates.isEmpty then
    (active, .error (.invalidParameters "no configuration changes were supplied"))
  else
    match updates.find? fun update => touchesSecret (trim update.1) with
    | some update => (active, .error (.secretPath (trim update.1)))
    | none =>
      match active with
      | none => (none, .error .notLoaded)
      | some config =>
        match schema.buildUpdated config updates with
        | .error error => (some config, .error error)
        | .ok (candidate, applied) =>
          -- the file is saved after the change is in memory
          match saved with
          | .ok () => (some candidate, .ok applied)
          | .error detail => (some candidate, .error (.config detail))

end Schema

/-! ## Calls -/

/-- A call, with what the file system answers to a save. -/
inductive Call (N : Type)
  | read (path : Option String)
  | apply (updates : List (String × Value N)) (saved : Except String Unit)

/-- What a call returns when it does not fail. -/
inductive Reply (N : Type)
  | value (value : Value N)
  | changes (applied : List (AppliedChange N))

namespace Schema

variable (schema : Schema N R)

/-- The configuration that is active after a call. -/
def step (active : Option (Config R)) : Call N → Option (Config R)
  | .read _ => active
  | .apply updates saved => (schema.apply active updates saved).1

/-- What a call returns. -/
def answer (active : Option (Config R)) : Call N → Except Error (Reply N)
  | .read path => (schema.read active path).map .value
  | .apply updates saved => (schema.apply active updates saved).2.map .changes

/-- What the calls of a run return. -/
def answers : Option (Config R) → List (Call N) → List (Except Error (Reply N))
  | _, [] => []
  | active, call :: calls => schema.answer active call :: answers (schema.step active call) calls

end Schema

/-! ## What agents may learn and change -/

/-- The same but for the contents of the key material. -/
inductive Alike : Option (Config R) → Option (Config R) → Prop
  | none : Alike none none
  | some {walletEncrypted walletEncrypted' walletNonce walletNonce' : String} (sections : R)
      (encrypted : walletEncrypted = "" ↔ walletEncrypted' = "")
      (nonce : walletNonce = "" ↔ walletNonce' = "") :
      Alike (some ⟨walletEncrypted, walletNonce, sections⟩)
        (some ⟨walletEncrypted', walletNonce', sections⟩)

/-- The key material. -/
def secretsOf (active : Option (Config R)) : Option (String × String) :=
  active.map fun config => (config.walletEncrypted, config.walletNonce)

/-- **A run is sealed**: it returns nothing that depends on the contents of the key material, no
call changes that, and a call that fails changes nothing. -/
structure Sealed (schema : Schema N R) (active : Option (Config R)) (calls : List (Call N)) :
    Prop where
  hidden : ∀ other, Alike active other → schema.answers other calls = schema.answers active calls
  kept : Throughout schema.step
    (fun active call => secretsOf (schema.step active call) = secretsOf active) active calls
  atomic : Throughout schema.step
    (fun active call => ∀ error, schema.answer active call = .error error →
      schema.step active call = active) active calls

/-- A change that is accepted can be saved, or is none. -/
def CanSave (schema : Schema N R) (active : Option (Config R)) (call : Call N) : Prop :=
  ∀ updates detail, call = .apply updates (.error detail) → updates ≠ [] →
    (∀ update ∈ updates, touchesSecret (trim update.1) = false) →
      ∀ config candidate applied, active = some config →
        schema.buildUpdated config updates = .ok (candidate, applied) → candidate = config

/-! ## Paths to the key material -/

lemma trim_trim (text : String) : trim (trim text) = trim text := by
  have hfirst : ∀ l : List Char, ((l.dropWhile isWhitespace).rdropWhile isWhitespace).dropWhile
      isWhitespace = (l.dropWhile isWhitespace).rdropWhile isWhitespace := by
    intro l
    rw [dropWhile_eq_self_iff]
    intro hlength
    have hstart := rdropWhile_prefix isWhitespace (l := l.dropWhile isWhitespace)
    rw [hstart.getElem hlength]
    exact dropWhile_get_zero_not isWhitespace l (hlength.trans_le hstart.length_le)
  simp only [trim, String.toList_ofList, hfirst, rdropWhile_idempotent]

lemma head_segments {path segment : String} {rest : List String}
    (h : touchesSecret path = false) (htrim : trim path = path)
    (hsegments : segments path = segment :: rest) : segment ∉ secretPaths := by
  intro hmem
  have hjoin : ['.'].intercalate (path.toList.splitOn '.') = path.toList :=
    intercalate_splitOn '.'
  have hsecret : (path == segment || startsWith path (segment ++ ".")) = false := by
    simp only [touchesSecret, htrim, Bool.or_eq_false_iff, any_eq_false, Bool.or_eq_true,
      not_or, Bool.not_eq_true] at h
    have hnone := h.2 segment hmem
    simp only [Bool.or_eq_false_iff]
    exact hnone.1
  unfold segments at hsegments
  cases hsplit : path.toList.splitOn '.' with
  | nil => exact splitOn_ne_nil _ _ hsplit
  | cons first others =>
    rw [hsplit, map_cons, List.cons.injEq] at hsegments
    obtain ⟨rfl, -⟩ := hsegments
    rw [hsplit] at hjoin
    cases others with
    | nil =>
      simp only [intercalate_singleton] at hjoin
      simp [hjoin] at hsecret
    | cons next others =>
      rw [intercalate_cons_cons] at hjoin
      have hstart : startsWith path (String.ofList first ++ ".") = true := by
        rw [startsWith, isPrefixOf_iff_prefix, ← hjoin]
        exact ⟨['.'].intercalate (next :: others), by simp⟩
      simp [hstart] at hsecret

/-! ## The same for every key material -/

section Root

variable {members : List (String × Value N)} {segment path : String}

lemma child_rootOf (h : segment ∉ secretPaths) (walletEncrypted walletNonce : String) :
    child (rootOf walletEncrypted walletNonce members) segment = members.lookup segment := by
  simp only [secretPaths, mem_cons, not_mem_nil, or_false, not_or] at h
  have hencrypted : (segment == "wallet_encrypted") = false := beq_eq_false_iff_ne.mpr h.1
  have hnonce : (segment == "wallet_nonce") = false := beq_eq_false_iff_ne.mpr h.2
  simp only [child, rootOf, lookup_cons, hencrypted, hnonce]

lemma replaceChild_rootOf (h : segment ∉ secretPaths) (walletEncrypted walletNonce : String)
    (new : Value N) :
    replaceChild (rootOf walletEncrypted walletNonce members) segment new =
      rootOf walletEncrypted walletNonce (replaceMember members segment new) := by
  simp only [secretPaths, mem_cons, not_mem_nil, or_false, not_or] at h
  simp [replaceChild, replaceMember, rootOf, Ne.symm h.1, Ne.symm h.2]

lemma keys_replace (members : List (String × Value N)) (segment : String) (new : Value N) :
    (replaceMember members segment new).map Prod.fst = members.map Prod.fst := by
  rw [replaceMember, map_map]
  apply map_congr_left
  intro member _
  by_cases h : member.1 = segment <;> simp [h]

lemma setAt_rootOf (h : touchesSecret path = false) (htrim : trim path = path) (new : Value N)
    (members : List (String × Value N)) :
    ∃ outcome : Except Error (Value N × List (String × Value N)),
      (∀ walletEncrypted walletNonce,
        setAt (rootOf walletEncrypted walletNonce members) path new =
          outcome.map fun result => (result.1, rootOf walletEncrypted walletNonce result.2)) ∧
      ∀ result, outcome = .ok result → result.2.map Prod.fst = members.map Prod.fst := by
  cases hsegments : segments path with
  | nil =>
    refine ⟨.error (unknownPath path "" (rootOf "" "" members)), ?_, nofun⟩
    intro walletEncrypted walletNonce
    simp only [setAt, hsegments]
    rfl
  | cons segment rest =>
    have hsegment := head_segments h htrim hsegments
    simp only [setAt, hsegments]
    cases hchild : members.lookup segment with
    | none =>
      refine ⟨.error (unknownPath path "" (rootOf "" "" members)), ?_, nofun⟩
      intro walletEncrypted walletNonce
      unfold setFrom
      rw [child_rootOf hsegment, hchild]
      rfl
    | some inner =>
      cases rest with
      | nil =>
        refine ⟨.ok (inner, replaceMember members segment new), ?_, ?_⟩
        · intro walletEncrypted walletNonce
          unfold setFrom
          rw [child_rootOf hsegment, hchild]
          simp only [replaceChild_rootOf hsegment]
          rfl
        · intro result hresult
          obtain rfl := Except.ok.inj hresult
          exact keys_replace members segment new
      | cons next rest =>
        refine ⟨(setFrom path new (walk "" segment) inner next rest).map fun result =>
          (result.1, replaceMember members segment result.2), ?_, ?_⟩
        · intro walletEncrypted walletNonce
          rw [setFrom, child_rootOf hsegment, hchild]
          simp only [replaceChild_rootOf hsegment]
          cases setFrom path new (walk "" segment) inner next rest <;> rfl
        · intro result hresult
          cases hset : setFrom path new (walk "" segment) inner next rest with
          | error error => simp [hset, Except.map] at hresult
          | ok found =>
            simp only [hset, Except.map, Except.ok.injEq] at hresult
            rw [← hresult]
            exact keys_replace members segment found.2

/-- No member has the name of a secret. -/
def Apart (members : List (String × Value N)) : Prop := ∀ member ∈ members, member.1 ∉ secretPaths

variable {members : List (String × Value N)}

lemma Apart.of_keys {members' : List (String × Value N)} (h : Apart members)
    (hkeys : members'.map Prod.fst = members.map Prod.fst) : Apart members' := by
  intro member hmember
  have hkey := mem_map_of_mem (f := Prod.fst) hmember
  rw [hkeys] at hkey
  obtain ⟨known, hknown, heq⟩ := mem_map.mp hkey
  rw [← heq]
  exact h known hknown

lemma applyUpdates_rootOf {updates : List (String × Value N)}
    (h : ∀ update ∈ updates, touchesSecret (trim update.1) = false) (hapart : Apart members) :
    ∃ outcome : Except Error (List (String × Value N) × List (AppliedChange N)),
      (∀ walletEncrypted walletNonce,
        Schema.applyUpdates (rootOf walletEncrypted walletNonce members) updates =
          outcome.map fun result => (rootOf walletEncrypted walletNonce result.1, result.2)) ∧
      ∀ result, outcome = .ok result → Apart result.1 := by
  induction updates generalizing members with
  | nil =>
    refine ⟨.ok (members, []), fun _ _ => rfl, ?_⟩
    intro result hresult
    obtain rfl := Except.ok.inj hresult
    exact hapart
  | cons update updates ih =>
    obtain ⟨path, value⟩ := update
    obtain ⟨outcome, hset, hkeys⟩ := setAt_rootOf (h (path, value) mem_cons_self)
      (trim_trim path) value members
    cases outcome with
    | error error =>
      refine ⟨.error error, ?_, nofun⟩
      intro walletEncrypted walletNonce
      rw [Schema.applyUpdates, hset]
      rfl
    | ok found =>
      obtain ⟨previous, replaced⟩ := found
      obtain ⟨rest, happly, hrest⟩ := ih
        (fun update hupdate => h update (mem_cons_of_mem _ hupdate))
        (hapart.of_keys (hkeys _ rfl))
      refine ⟨rest.map fun result => (result.1, ⟨trim path, previous, value⟩ :: result.2), ?_, ?_⟩
      · intro walletEncrypted walletNonce
        rw [Schema.applyUpdates, hset]
        simp only [Except.map, happly]
        cases rest <;> rfl
      · intro result hresult
        cases hok : rest with
        | error error => simp [hok, Except.map] at hresult
        | ok done =>
          simp only [hok, Except.map, Except.ok.injEq] at hresult
          rw [← hresult]
          exact hrest done hok

end Root

section Schema

variable (schema : Schema N R) {updates : List (String × Value N)}

lemma fromValue_rootOf {members : List (String × Value N)} (h : Apart members)
    (walletEncrypted walletNonce : String) :
    schema.fromValue (rootOf walletEncrypted walletNonce members) =
      (schema.parse members).map fun sections => ⟨walletEncrypted, walletNonce, sections⟩ := by
  have hfilter : (members.filter fun member => !secretPaths.contains member.1) = members := by
    rw [filter_eq_self]
    intro member hmember
    simpa using h member hmember
  have hsecrets : ((("wallet_encrypted", Value.string walletEncrypted) ::
      ("wallet_nonce", Value.string walletNonce) :: members).filter
        fun member => !secretPaths.contains member.1) = members := by
    rw [filter_cons_of_neg (by simp [secretPaths]),
      filter_cons_of_neg (by simp [secretPaths]), hfilter]
  simp only [Schema.fromValue, rootOf, hsecrets]
  cases schema.parse members <;> rfl

lemma buildUpdated_same (sections : R)
    (h : ∀ update ∈ updates, touchesSecret (trim update.1) = false) :
    ∃ outcome : Except Error (R × List (AppliedChange N)),
      ∀ walletEncrypted walletNonce,
        schema.buildUpdated ⟨walletEncrypted, walletNonce, sections⟩ updates =
          outcome.map fun result => (⟨walletEncrypted, walletNonce, result.1⟩, result.2) := by
  cases hmembers : schema.members sections with
  | error detail =>
    refine ⟨.error (.invalidParameters ("configuration could not be serialized: " ++ detail)), ?_⟩
    intro walletEncrypted walletNonce
    simp only [Schema.buildUpdated, Schema.toValue, hmembers]
    rfl
  | ok members =>
    obtain ⟨outcome, happly, hkeys⟩ :=
      applyUpdates_rootOf h (schema.apart sections members hmembers)
    cases outcome with
    | error error =>
      refine ⟨.error error, ?_⟩
      intro walletEncrypted walletNonce
      simp only [Schema.buildUpdated, Schema.toValue, hmembers, bind, Except.bind, happly]
      rfl
    | ok found =>
      obtain ⟨replaced, applied⟩ := found
      have hread := fromValue_rootOf schema (hkeys _ rfl)
      have hrun : ∀ walletEncrypted walletNonce,
          schema.buildUpdated ⟨walletEncrypted, walletNonce, sections⟩ updates =
            match (schema.parse replaced).map
              fun sections => (⟨walletEncrypted, walletNonce, sections⟩ : Config R) with
            | .error detail =>
              .error (.invalidParameters ("rejected by the configuration schema: " ++ detail))
            | .ok candidate =>
              match schema.validate candidate.sections with
              | .error detail => .error (.config detail)
              | .ok () => .ok (candidate, applied) := by
        intro walletEncrypted walletNonce
        rw [← hread]
        simp only [Schema.buildUpdated, Schema.toValue, hmembers, bind, Except.bind, happly]
        rfl
      cases hparse : schema.parse replaced with
      | error detail =>
        refine ⟨.error (.invalidParameters
          ("rejected by the configuration schema: " ++ detail)), ?_⟩
        intro walletEncrypted walletNonce
        rw [hrun, hparse]
        rfl
      | ok candidate =>
        cases hvalid : schema.validate candidate with
        | error detail =>
          refine ⟨.error (.config detail), ?_⟩
          intro walletEncrypted walletNonce
          rw [hrun, hparse]
          simp only [Except.map, hvalid]
        | ok done =>
          refine ⟨.ok (candidate, applied), ?_⟩
          intro walletEncrypted walletNonce
          rw [hrun, hparse]
          simp only [Except.map, hvalid]

lemma apply_same (sections : R) (updates : List (String × Value N)) (saved : Except String Unit) :
    ∃ (sections' : R) (reply : Except Error (List (AppliedChange N))),
      ∀ walletEncrypted walletNonce,
        schema.apply (some ⟨walletEncrypted, walletNonce, sections⟩) updates saved =
          (some ⟨walletEncrypted, walletNonce, sections'⟩, reply) := by
  by_cases hempty : updates.isEmpty = true
  · refine ⟨sections, .error (.invalidParameters "no configuration changes were supplied"), ?_⟩
    intro walletEncrypted walletNonce
    rw [Schema.apply, if_pos hempty]
  · cases hfind : updates.find? fun update => touchesSecret (trim update.1) with
    | some update =>
      refine ⟨sections, .error (.secretPath (trim update.1)), ?_⟩
      intro walletEncrypted walletNonce
      simp only [Schema.apply, if_neg hempty, hfind]
    | none =>
      have hpaths : ∀ update ∈ updates, touchesSecret (trim update.1) = false := by
        intro update hupdate
        simpa using List.find?_eq_none.mp hfind update hupdate
      obtain ⟨outcome, hbuild⟩ := buildUpdated_same schema sections hpaths
      cases outcome with
      | error error =>
        refine ⟨sections, .error error, ?_⟩
        intro walletEncrypted walletNonce
        simp only [Schema.apply, if_neg hempty, hfind, hbuild, Except.map]
      | ok found =>
        obtain ⟨candidate, applied⟩ := found
        cases saved with
        | ok done =>
          refine ⟨candidate, .ok applied, ?_⟩
          intro walletEncrypted walletNonce
          simp only [Schema.apply, if_neg hempty, hfind, hbuild, Except.map]
        | error detail =>
          refine ⟨candidate, .error (.config detail), ?_⟩
          intro walletEncrypted walletNonce
          simp only [Schema.apply, if_neg hempty, hfind, hbuild, Except.map]

lemma redactMember_secret {key : String} (h : key ∈ secretPaths) (text : String) :
    redactMember (key, (.string text : Value N)) =
      (key, .string (if text = "" then "" else redacted)) := by
  rw [redactMember, if_pos (contains_iff_mem.mpr h)]
  by_cases hempty : text = ""
  · simp [hempty]
  · rw [if_neg hempty]
    split
    · rename_i heq
      exact absurd (Value.string.inj heq) hempty
    · rfl

lemma redact_rootOf (walletEncrypted walletNonce : String) (members : List (String × Value N)) :
    redact (rootOf walletEncrypted walletNonce members) =
      rootOf (if walletEncrypted = "" then "" else redacted)
        (if walletNonce = "" then "" else redacted) (members.map redactMember) := by
  simp only [redact, rootOf, map_cons]
  rw [redactMember_secret (by simp [secretPaths]), redactMember_secret (by simp [secretPaths])]

variable {active other : Option (Config R)}

lemma read_alike (h : Alike active other) (path : Option String) :
    schema.read other path = schema.read active path := by
  cases h with
  | none => rfl
  | some sections encrypted nonce =>
    cases hmembers : schema.members sections with
    | error detail => simp only [Schema.read, Schema.snapshot, Schema.toValue, hmembers]
    | ok members =>
      simp only [Schema.read, Schema.snapshot, Schema.toValue, hmembers, bind, Except.bind,
        redact_rootOf, encrypted, nonce]

lemma apply_none (updates : List (String × Value N)) (saved : Except String Unit) :
    (schema.apply none updates saved).1 = none := by
  by_cases hempty : updates.isEmpty = true
  · rw [Schema.apply, if_pos hempty]
  · rw [Schema.apply, if_neg hempty]
    cases updates.find? fun update => touchesSecret (trim update.1) <;> rfl

lemma call_alike (h : Alike active other) (call : Call N) :
    schema.answer other call = schema.answer active call ∧
      Alike (schema.step active call) (schema.step other call) := by
  cases call with
  | read path => exact ⟨by simp only [Schema.answer, read_alike schema h], h⟩
  | apply updates saved =>
    cases h with
    | none =>
      have hnone := apply_none schema updates saved
      exact ⟨rfl, by simpa only [Schema.step, hnone] using Alike.none⟩
    | some sections encrypted nonce =>
      obtain ⟨sections', reply, happly⟩ := apply_same schema sections updates saved
      simp only [Schema.answer, Schema.step, happly]
      exact ⟨trivial, .some sections' encrypted nonce⟩

lemma answers_alike (h : Alike active other) (calls : List (Call N)) :
    schema.answers other calls = schema.answers active calls := by
  induction calls generalizing active other with
  | nil => rfl
  | cons call calls ih =>
    obtain ⟨hanswer, hnext⟩ := call_alike schema h call
    simp only [Schema.answers, hanswer, ih hnext]

lemma secretsOf_step (active : Option (Config R)) (call : Call N) :
    secretsOf (schema.step active call) = secretsOf active := by
  cases call with
  | read path => rfl
  | apply updates saved =>
    cases active with
    | none => rw [Schema.step, apply_none]
    | some config =>
      obtain ⟨sections', reply, happly⟩ := apply_same schema config.sections updates saved
      have hsame := happly config.walletEncrypted config.walletNonce
      simp only [Schema.step, hsame]
      rfl

/-- **Secrets neither leak nor change**, whatever the calls are and whether or not what they set can be
saved: configurations that differ in their secrets answer alike, and the secrets stay. -/
theorem secretsOf_run (active : Option (Config R)) (calls : List (Call N)) :
    (∀ other, Alike active other → schema.answers other calls = schema.answers active calls) ∧
      secretsOf (calls.foldl schema.step active) = secretsOf active := by
  refine ⟨fun other h => answers_alike schema h calls, ?_⟩
  induction calls generalizing active with
  | nil => rfl
  | cons call calls ih => rw [foldl_cons, ih, secretsOf_step]

lemma atomic_iff_canSave (active : Option (Config R)) (call : Call N) :
    (∀ error, schema.answer active call = .error error → schema.step active call = active) ↔
      CanSave schema active call := by
  constructor
  · rintro h updates detail rfl hne hpaths config candidate applied rfl hbuild
    have hfind : (updates.find? fun update => touchesSecret (trim update.1)) = none := by
      rw [List.find?_eq_none]
      intro update hupdate
      simp [hpaths update hupdate]
    have hrun : schema.apply (some config) updates (.error detail) =
        (some candidate, .error (.config detail)) := by
      have hempty : ¬ updates.isEmpty = true := by simpa using hne
      simp only [Schema.apply, if_neg hempty, hfind, hbuild]
    have hsame := h (.config detail) (by simp only [Schema.answer, hrun]; rfl)
    simpa [Schema.step, hrun] using hsame
  · intro h error hfail
    cases call with
    | read path => rfl
    | apply updates saved =>
      by_cases hempty : updates.isEmpty = true
      · simp only [Schema.step, Schema.apply, if_pos hempty]
      · cases hfind : updates.find? fun update => touchesSecret (trim update.1) with
        | some update => simp only [Schema.step, Schema.apply, if_neg hempty, hfind]
        | none =>
          have hpaths : ∀ update ∈ updates, touchesSecret (trim update.1) = false := by
            intro update hupdate
            simpa using List.find?_eq_none.mp hfind update hupdate
          cases active with
          | none => exact apply_none schema updates saved
          | some config =>
            cases hbuild : schema.buildUpdated config updates with
            | error error =>
              simp only [Schema.step, Schema.apply, if_neg hempty, hfind, hbuild]
            | ok found =>
              obtain ⟨candidate, applied⟩ := found
              cases saved with
              | ok done =>
                simp [Schema.answer, Schema.apply, hempty, hfind, hbuild, Except.map] at hfail
              | error detail =>
                have hne : updates ≠ [] := by simpa using hempty
                have hsame := h updates detail rfl hne hpaths config candidate applied
                  rfl hbuild
                simp only [Schema.step, Schema.apply, if_neg hempty, hfind, hbuild, hsame]

/-- **Runs of calls are sealed**, exactly when every change that is accepted can be saved. -/
theorem sealed_iff (active : Option (Config R)) (calls : List (Call N)) :
    Sealed schema active calls ↔ Throughout schema.step (CanSave schema) active calls := by
  constructor
  · intro h
    exact h.atomic.imp fun active call _ => (atomic_iff_canSave schema active call).mp
  · intro h
    refine ⟨fun other halike => answers_alike schema halike calls, ?_, ?_⟩
    · exact h.imp fun active call _ _ => secretsOf_step schema active call
    · exact h.imp fun active call _ => (atomic_iff_canSave schema active call).mpr

end Schema

/-- The sections are one number. -/
def numbers : Schema ℕ ℕ where
  members port := .ok [("port", .number port)]
  parse members := match members.lookup "port" with
    | some (.number port) => .ok port
    | _ => .error "invalid type, expected a number"
  validate _ := .ok ()
  apart := by
    intro sections found h member hmember
    obtain rfl := Except.ok.inj h
    obtain rfl := mem_singleton.mp hmember
    simp [secretPaths]

/-- **A change whose save fails** is active all the same. -/
theorem not_sealed :
    ¬ ∀ (N R : Type) (schema : Schema N R) (active : Option (Config R)) (calls : List (Call N)),
      Sealed schema active calls := by
  intro h
  have hatomic := (h ℕ ℕ numbers (some ⟨"", "", 1⟩)
    [.apply [("port", .number 2)] (.error "disk full")]).atomic.1
  have hrun : numbers.apply (some ⟨"", "", 1⟩) [("port", .number 2)] (.error "disk full") =
      (some ⟨"", "", 2⟩, .error (.config "disk full")) := rfl
  have hsame := hatomic (.config "disk full") (by rw [Schema.answer, hrun]; rfl)
  simp [Schema.step, hrun] at hsame

end Dripline.AgentControl.ConfigAccess
