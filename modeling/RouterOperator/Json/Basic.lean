import RouterOperator.Binary64.Basic
import RouterOperator.Dict

/-!
# JSON values

A number is either an integer that fits 64 bits or a decimal, which is a binary floating point
number: `1.0`, `1e3` and `-0` are decimals, and nothing here turns a decimal into an integer. The
members of an object are a list of entries. As read from a text they stand in the order of the text,
where a key may occur twice, and a part of the text may stand for no value at all. A plain value has
neither: its members are in ascending order, each key once.
-/

namespace RouterOperator

/-- A JSON value. -/
inductive Json where
  | null
  | bool (value : Bool)
  | integer (value : Int)
  | decimal (negative : Bool) (value : Binary64)
  | string (value : String)
  | array (items : List Json)
  | object (members : List (String × Json))
  /-- Well-formed text that stands for no value, such as half a surrogate pair in a string. -/
  | unreadable
deriving Inhabited

namespace Json

variable {α : Type}

/-- The members of an object. -/
def members? : Json → Option (Dict Json)
  | object members => some ⟨members⟩
  | _ => none

/-- The items of an array. -/
def items? : Json → Option (List Json)
  | array items => some items
  | _ => none

/-- The member of an object with this key; nothing for any other value. -/
def get? (json : Json) (key : String) : Option Json := json.members?.bind (·.get? key)

/-- A string. -/
def string? : Json → Option String
  | string value => some value
  | _ => none

/-- A truth value. -/
def bool? : Json → Option Bool
  | bool value => some value
  | _ => none

/-- An integer of 32 bits. -/
def int32? : Json → Option Int32
  | integer value =>
    if -2147483648 ≤ value ∧ value ≤ 2147483647 then some (Int32.ofInt value) else none
  | _ => none

/-- An integer of 64 bits. -/
def int64? : Json → Option Int64
  | integer value =>
    if -9223372036854775808 ≤ value ∧ value ≤ 9223372036854775807 then some (Int64.ofInt value)
    else none
  | _ => none

/-- An array, each item read alike. -/
def listOf? (read : Json → Option α) (json : Json) : Option (List α) :=
  json.items?.bind (·.mapM read)

/-- An object, each value read alike; of two values with one key the later counts. -/
def dictOf? (read : Json → Option α) (json : Json) : Option (Dict α) := do
  let members ← json.members?
  let entries ← members.entries.mapM fun entry => (read entry.2).map (entry.1, ·)
  return .ofList entries

mutual

/-- Whether every part of a value stands for a value. -/
def isReadable : Json → Bool
  | unreadable => false
  | array items => areReadable items
  | object members => membersReadable members
  | null | bool _ | integer _ | decimal _ _ | string _ => true

/-- Whether all items of an array are readable. -/
def areReadable : List Json → Bool
  | [] => true
  | item :: rest => item.isReadable && areReadable rest

/-- Whether the values of all members of an object are readable. -/
def membersReadable : List (String × Json) → Bool
  | [] => true
  | (_, value) :: rest => value.isReadable && membersReadable rest

end

mutual

/-- The value with the members of every object in ascending order; of two members with one key the
later counts. -/
def ordered : Json → Json
  | array items => array (orderedItems items)
  | object members => object (Dict.ofList (orderedMembers members)).entries
  | json => json

/-- The items of an array, each with its members in order. -/
def orderedItems : List Json → List Json
  | [] => []
  | item :: rest => item.ordered :: orderedItems rest

/-- The members of an object as they stand, each value with its members in order. -/
def orderedMembers : List (String × Json) → List (String × Json)
  | [] => []
  | (key, value) :: rest => (key, value.ordered) :: orderedMembers rest

end

/-- The plain value of a JSON text. A text with an unreadable part has none. -/
def plain? (json : Json) : Option Json := if json.isReadable then some json.ordered else none

/-- An integer of 32 bits as JSON. -/
def int32 (value : Int32) : Json := integer value.toInt

/-- An integer of 64 bits as JSON. -/
def int64 (value : Int64) : Json := integer value.toInt

/-- A list as JSON, each item written alike. -/
def list (write : α → Json) (items : List α) : Json := array (items.map write)

/-- A dictionary as JSON, each value written alike. -/
def dict (write : α → Json) (entries : Dict α) : Json :=
  object (entries.entries.map fun entry => (entry.1, write entry.2))

end Json

end RouterOperator
