import Dripline.AgentControl.Json
import Mathlib.Data.List.Infix

/-!
# Stored results

`agent_control/audit.rs`: `sanitize_value`, `redact`, `is_sensitive_key`, `clamp`.

A source without a file is in `audit.rs`, where a definition without a comment is the one
of its name.
-/

namespace Dripline.AgentControl

variable {N : Type}

namespace Value

mutual

/-- How deep a value nests. -/
def depth : Value N → ℕ
  | .array items => depthItems items + 1
  | .object members => depthMembers members + 1
  | .null | .bool _ | .number _ | .string _ => 0

/-- The deepest item. -/
def depthItems : List (Value N) → ℕ
  | [] => 0
  | item :: items => max item.depth (depthItems items)

/-- The deepest member. -/
def depthMembers : List (String × Value N) → ℕ
  | [] => 0
  | (_, value) :: members => max value.depth (depthMembers members)

end

lemma depthMembers_le {bound : ℕ} {members : List (String × Value N)} :
    depthMembers members ≤ bound ↔ ∀ member ∈ members, member.2.depth ≤ bound := by
  induction members with
  | nil => simp [depthMembers]
  | cons member members ih => simp [depthMembers, ih]

end Value

/-! ## Redaction -/

def maxStr : ℕ := 256

def maxResultJsonBytes : ℕ := 4096

def maxArray : ℕ := 20

def maxObjectKeys : ℕ := 40

def maxDepth : ℕ := 6

/-- The names that are secret as a whole segment. Source: `is_sensitive_key` -/
def sensitiveSegments : List String :=
  ["password", "passwd", "pwd", "seed", "seedphrase", "privatekey", "apikey", "authorization", "auth",
    "credential", "credentials", "token", "bearer", "cookie", "session"]

def isSensitiveKey (key : String) : Bool :=
  let lower := key.toList.map Char.toLower
  let contains (part : String) : Bool := decide (part.toList <:+: lower)
  if contains "secret" || contains "mnemonic" || contains "passphrase" then true
  else
    (lower.splitOnP fun c => !c.isAlphanum).any
        (fun segment => sensitiveSegments.contains (String.ofList segment)) &&
      !contains "token_mint" && !contains "tokenmint" && !contains "token_address" &&
      !contains "tokenaddress"

/-- As many characters as fit in a number of bytes. -/
def takeBytes : ℕ → List Char → List Char
  | _, [] => []
  | budget, c :: rest =>
    if c.utf8Size ≤ budget then c :: takeBytes (budget - c.utf8Size) rest else []

def clamp (s : String) (max : ℕ) : String :=
  if s.utf8ByteSize ≤ max then s else String.ofList (takeBytes max s.toList) ++ "…"

mutual

def redact (depth : ℕ) (value : Value N) : Value N :=
  if maxDepth ≤ depth then .string "[depth-limited]"
  else
    match value with
    | .string s => .string (clamp s maxStr)
    | .array items => .array (redactItems depth maxArray items)
    | .object members => .object (redactMembers depth maxObjectKeys members)
    | .null => .null
    | .bool b => .bool b
    | .number n => .number n

/-- The first items, redacted. -/
def redactItems (depth : ℕ) : ℕ → List (Value N) → List (Value N)
  | 0, _ => []
  | _, [] => []
  | count + 1, item :: items => redact (depth + 1) item :: redactItems depth count items

/-- The first members, redacted. -/
def redactMembers (depth : ℕ) : ℕ → List (String × Value N) → List (String × Value N)
  | 0, _ => []
  | _, [] => []
  | count + 1, (key, value) :: members =>
    (key, if isSensitiveKey key then .string "[redacted]" else redact (depth + 1) value) ::
      redactMembers depth count members

end

namespace Codec

variable (codec : Codec N)

def jsonLen (value : Value N) : ℕ := (codec.text value).utf8ByteSize

/-- What stands for a result that is too large. Source: `sanitize_value` -/
def omitted : Value N := .string "[omitted: redacted result exceeded 4096 bytes]"

/-- The small members that are kept of it. Source: `sanitize_value` -/
def keptMembers (members : List (String × Value N)) : List (String × Value N) :=
  ["success", "ok", "error", "code", "message", "status"].filterMap fun key =>
    (members.find? fun member => member.1 = key && decide (codec.jsonLen member.2 ≤ 512)).map
      fun member => (key, member.2)

def sanitizeValue (value : Value N) : Value N :=
  let redacted := redact 0 value
  if codec.jsonLen redacted ≤ maxResultJsonBytes then redacted
  else
    match redacted with
    | .object members =>
      .object (Value.sortKeys (codec.keptMembers members ++ [("data", omitted)]))
    | _ => omitted

end Codec

/-! ## How deep a stored result nests -/

mutual

lemma depth_redact (depth : ℕ) : ∀ value :
    Value N, (redact depth value).depth ≤ maxDepth - depth := by
  intro value
  by_cases hdepth : maxDepth ≤ depth
  · rw [redact.eq_def, if_pos hdepth]
    exact Nat.zero_le _
  · rw [redact.eq_def, if_neg hdepth]
    cases value with
    | array items =>
      have hitems := depth_redactItems depth maxArray items
      simp only [Value.depth]
      omega
    | object members =>
      have hmembers := depth_redactMembers depth maxObjectKeys members
      simp only [Value.depth]
      omega
    | null | bool _ | number _ | string _ => exact Nat.zero_le _

lemma depth_redactItems (depth : ℕ) : ∀ (count : ℕ) (items : List (Value N)),
    Value.depthItems (redactItems depth count items) ≤ maxDepth - (depth + 1)
  | 0, _ => by simp [redactItems, Value.depthItems]
  | _ + 1, [] => by simp [redactItems, Value.depthItems]
  | count + 1, item :: items => by
    rw [redactItems, Value.depthItems]
    exact max_le (depth_redact (depth + 1) item) (depth_redactItems depth count items)

lemma depth_redactMembers (depth : ℕ) : ∀ (count : ℕ) (members : List (String × Value N)),
    Value.depthMembers (redactMembers depth count members) ≤ maxDepth - (depth + 1)
  | 0, _ => by simp [redactMembers, Value.depthMembers]
  | _ + 1, [] => by simp [redactMembers, Value.depthMembers]
  | count + 1, (key, value) :: members => by
    rw [redactMembers, Value.depthMembers]
    refine max_le ?_ (depth_redactMembers depth count members)
    split
    · exact Nat.zero_le _
    · exact depth_redact (depth + 1) value

end

namespace Codec

variable (codec : Codec N)

lemma depth_sanitizeValue (value : Value N) : (codec.sanitizeValue value).depth ≤ maxDepth := by
  have hredact : (redact 0 value).depth ≤ maxDepth := depth_redact 0 value
  rw [sanitizeValue]
  split
  · exact hredact
  · split
    · rename_i members hmembers
      rw [hmembers, Value.depth] at hredact
      refine Nat.le_trans (Nat.succ_le_succ (Value.depthMembers_le.mpr fun member hmember => ?_))
        hredact
      obtain hkept | hdata := List.mem_append.mp (List.mem_mergeSort.mp hmember)
      · obtain ⟨key, _, hfound⟩ := List.mem_filterMap.mp hkept
        obtain ⟨found, hfind, rfl⟩ := Option.map_eq_some_iff.mp hfound
        exact Value.depthMembers_le.mp (Nat.le_refl _) found (List.mem_of_find?_eq_some hfind)
      · obtain rfl := List.mem_singleton.mp hdata
        exact Nat.zero_le _
    · exact Nat.zero_le _

/-- The library reads a text of its own. -/
def Readable (raw : Option String) : Prop := ∃ text, raw = some text ∧ (codec.parse text).isSome

end Codec

/-- A failure as the statements write it. Source: `approvals.rs`, `claim`; `store.rs`,
`recover_interrupted` -/
def failureText (error : String) : String :=
  "\x7b\"success\":false,\"error\":\"" ++ error ++ "\"\x7d"

/-- What the library is relied on to read: the failures that the statements write, and every text of
its own of a value that nests less deep than its limit. -/
structure Codec.Reads (codec : Codec N) : Prop where
  failures : ∀ error ∈ ["argument integrity check failed", "stored canonical args are not valid JSON",
    "interrupted at shutdown; not retried"], (codec.parse (failureText error)).isSome
  written : ∀ value : Value N, value.depth < 128 → (codec.parse (codec.text value)).isSome

lemma Codec.Reads.sanitizeValue {codec : Codec N} (h : codec.Reads) (value : Value N) :
    codec.Readable (some (codec.text (codec.sanitizeValue value))) := by
  refine ⟨_, rfl, h.written _ ?_⟩
  have hdepth := codec.depth_sanitizeValue value
  simp only [maxDepth] at hdepth
  omega

end Dripline.AgentControl
