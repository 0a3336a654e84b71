import Mathlib.Data.List.Sort
import Mathlib.Data.String.Basic

/-!
# Canonical arguments

`agent_control/approvals.rs`, `canonicalize` and `stored_result`. The JSON library is a parameter.

* `Value` — a JSON value, with any type of numbers.
* `Codec` — how the library writes a value and reads a text.
* `Value.norm`, `Codec.canonicalize` — the keys of every object sorted, and the text of it.
-/

namespace Dripline.AgentControl

/-- A JSON value; the members of an object in the order in which they stand. -/
inductive Value (N : Type)
  | null
  | bool (value : Bool)
  | number (value : N)
  | string (value : String)
  | array (items : List (Value N))
  | object (members : List (String × Value N))

variable {N : Type}

/-- The library's `to_string` and `from_str`. -/
structure Codec (N : Type) where
  text : Value N → String
  parse : String → Option (Value N)

namespace Value

/-- The members of an object by their keys. -/
def sortKeys (members : List (String × Value N)) : List (String × Value N) :=
  members.mergeSort fun a b => decide (a.1 ≤ b.1)

mutual

/-- Source: `approvals.rs`, `canonicalize`, `norm` -/
def norm : Value N → Value N
  | .array items => .array (normItems items)
  | .object members => .object (sortKeys (normMembers members))
  | .null => .null
  | .bool value => .bool value
  | .number value => .number value
  | .string value => .string value

/-- `norm` of each item. -/
def normItems : List (Value N) → List (Value N)
  | [] => []
  | item :: items => item.norm :: normItems items

/-- `norm` of each member. -/
def normMembers : List (String × Value N) → List (String × Value N)
  | [] => []
  | (key, value) :: members => (key, value.norm) :: normMembers members

end

end Value

namespace Codec

variable (codec : Codec N)

/-- Source: `approvals.rs` -/
def canonicalize (value : Value N) : String := codec.text value.norm

/-- What the library reads of a canonical text has that text as its own. -/
def ReadsBack (value : Value N) : Prop :=
  ∀ read, codec.parse (codec.canonicalize value) = some read →
    codec.canonicalize read = codec.canonicalize value

variable {codec}

end Codec

end Dripline.AgentControl
