import RouterOperator.Json.Basic

/-!
# Records in JSON

How a structure stands in a JSON object: a writer lists its fields in the order they are written,
each with its value if it is written at all, and a reader looks its fields up by name, so that
members it does not know are ignored. No field may be given twice. A field is optional, has a
default, or is required; the three differ in what an absent member and a `null` mean.
-/

namespace RouterOperator

namespace Json

variable {α : Type}

/-- An object of the fields that have a value, in the order listed. -/
def ofFields (fields : List (String × Option Json)) : Json :=
  object (fields.filterMap fun field => field.2.map (field.1, ·))

/-- An object of the fields that have a value and of further members, each in its place in
ascending order. -/
def ofFieldsAnd (fields : List (String × Option Json)) (more : Dict Json) : Json :=
  object (fields.foldl (fun members field =>
    match field.2 with
    | some value => members.insert field.1 value
    | none => members) more).entries

/-- A truth value that is written only when it is true. -/
def ifTrue (value : Bool) : Option Json := if value then some (bool true) else none

/-- A text that is written only when it is not empty. -/
def ifGiven (text : String) : Option Json := if text = "" then none else some (string text)

/-- A list that is written only when it is not empty. -/
def ifNonempty (write : α → Json) (items : List α) : Option Json :=
  if items.isEmpty then none else some (list write items)

/-- The members of an object that gives none of these names twice. -/
def membersOnce? (names : List String) (json : Json) : Option (Dict Json) :=
  json.members?.filter fun members =>
    names.all fun name => (members.entries.filter (·.1 = name)).length ≤ 1

/-- The members of a record. A record may also be written as an array of its field values in
declared order, of which the trailing ones beyond `least` may be left out. -/
def record? (names : List String) (least : Nat) : Json → Option (Dict Json)
  | array items =>
    if least ≤ items.length ∧ items.length ≤ names.length then some ⟨names.zip items⟩ else none
  | json => json.membersOnce? names

/-- The name of an enumeration's case, as a string or as an object with that one member. -/
def case? : Json → Option String
  | string name => some name
  | object [(name, null)] => some name
  | _ => none

end Json

namespace Dict

variable {α : Type}

/-- An optional field: absent and `null` mean no value. -/
def optional (members : Dict Json) (name : String) (read : Json → Option α) :
    Option (Option α) :=
  match members.get? name with
  | none | some .null => some none
  | some json => (read json).map some

/-- A field with a default: absent means the default, and `null` is read like any other value. -/
def defaulted (members : Dict Json) (name : String) (read : Json → Option α) (absent : α) :
    Option α :=
  match members.get? name with
  | none => some absent
  | some json => read json

/-- A field with a default that `null` means as well. -/
def orDefault (members : Dict Json) (name : String) (read : Json → Option α) (absent : α) :
    Option α :=
  (members.optional name read).map (·.getD absent)

/-- The last value given for a field that may be given repeatedly. All of them are read, and `null`
means no value. -/
def lastGiven (members : Dict Json) (name : String) (read : Json → Option α) :
    Option (Option α) := do
  let given ← (members.entries.filter (·.1 = name)).mapM fun member =>
    match member.2 with
    | .null => some none
    | json => (read json).map some
  return given.getLast?.join

/-- The members with other names than these. -/
def without (members : Dict Json) (names : List String) : Dict Json :=
  ⟨members.entries.filter fun member => !names.contains member.1⟩

/-- A required field. -/
def required (members : Dict Json) (name : String) (read : Json → Option α) : Option α :=
  (members.get? name).bind read

end Dict

end RouterOperator
