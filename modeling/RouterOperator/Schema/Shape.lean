import RouterOperator.Json.Record
import RouterOperator.Timestamp

/-!
# Shapes of cluster objects

A `Shape` describes the JSON of a part of a cluster object. `Shape.clean` brings a value into the
form the object is stored in: members the shape does not list and members that are `null` are
dropped, required members that are missing get their zero value if they have one, times are brought
to universal time, and a value of the wrong kind is refused. A member may be given repeatedly; then
each value must have its shape, and the last one counts.
-/

namespace RouterOperator

/-- The JSON of a part of a cluster object. -/
inductive Shape where
  | text
  | flag
  | int32
  | int64
  | time
  /-- Bytes in base 64; `null` stands for no bytes. -/
  | bytes
  /-- A number or a text, such as a port that is given by number or by name. -/
  | int32OrText
  /-- Any value, kept as it is. -/
  | anything
  | listOf (item : Shape)
  | dictOf (value : Shape)
  | record (optional required : List (String × Shape))

namespace Shape

/-- A digit of the base 64 alphabet. -/
def base64Digit? (c : Char) : Option Nat :=
  if 'A' ≤ c ∧ c ≤ 'Z' then some (c.toNat - 'A'.toNat)
  else if 'a' ≤ c ∧ c ≤ 'z' then some (c.toNat - 'a'.toNat + 26)
  else if c.isDigit then some (c.toNat - '0'.toNat + 52)
  else if c = '+' then some 62
  else if c = '/' then some 63
  else none

/-- Whether a text is the base 64 form of some bytes: whole groups of four, the last one filled up
with `=`, and no bit set that stands for no byte. -/
def isBase64 : List Char → Bool
  | [] => true
  | [a, b, '=', '='] =>
    (base64Digit? a).isSome && (base64Digit? b).any fun digit => digit % 16 == 0
  | [a, b, c, '='] =>
    (base64Digit? a).isSome && (base64Digit? b).isSome &&
      (base64Digit? c).any fun digit => digit % 4 == 0
  | a :: b :: c :: d :: rest =>
    (base64Digit? a).isSome && (base64Digit? b).isSome && (base64Digit? c).isSome &&
      (base64Digit? d).isSome && isBase64 rest
  | _ => false

mutual

/-- The value of a required member that is missing. A time has none. -/
def zero? : Shape → Option Json
  | text | bytes => some (.string "")
  | flag => some (.bool false)
  | int32 | int64 | int32OrText => some (.integer 0)
  | time => none
  | anything => some .null
  | listOf _ => some (.array [])
  | dictOf _ => some (.object [])
  | record _ required => (zeroMembers? required).map .object

/-- The members of a record of which nothing is given. -/
def zeroMembers? : List (String × Shape) → Option (List (String × Json))
  | [] => some []
  | (name, shape) :: rest => do return Dict.put name (← shape.zero?) (← zeroMembers? rest)

end

mutual

/-- Brings a value into the form of this shape. -/
def clean : Shape → Json → Option Json
  | text, json => json.string?.map .string
  | flag, json => json.bool?.map .bool
  | int32, json => json.int32?.map .int32
  | int64, json => json.int64?.map .int64
  | time, json => (json.string?.bind Timestamp.parse?).map fun time => .string time.toText
  | bytes, .null => some (.string "")
  | bytes, json => (json.string?.filter fun text => isBase64 text.toList).map .string
  | int32OrText, json => json.string?.map .string <|> json.int32?.map .int32
  | anything, json => json.plain?
  | listOf item, json => (json.listOf? item.clean).map .array
  | dictOf value, json => (json.dictOf? value.clean).map fun dict => .object dict.entries
  | record optional required, json => do
    let members ← json.members?
    return .object (← cleanOptional optional members (← cleanRequired required members))

/-- Adds the optional members that are given. -/
def cleanOptional : List (String × Shape) → Dict Json → List (String × Json) →
    Option (List (String × Json))
  | [], _, cleaned => some cleaned
  | (name, shape) :: rest, members, cleaned => do
    let cleaned ← cleanOptional rest members cleaned
    match ← members.lastGiven name shape.clean with
    | some value => return Dict.put name value cleaned
    | none => return cleaned

/-- The required members, with the zero value for one that is not given. -/
def cleanRequired : List (String × Shape) → Dict Json → Option (List (String × Json))
  | [], _ => some []
  | (name, shape) :: rest, members => do
    let cleaned ← cleanRequired rest members
    match ← members.lastGiven name shape.clean with
    | some value => return Dict.put name value cleaned
    | none => return Dict.put name (← shape.zero?) cleaned

end

/-- A record all of whose members may be absent. -/
def fields (optional : List (String × Shape)) : Shape := record optional []

/-- A list of texts. -/
def texts : Shape := listOf text

/-- A dictionary of texts. -/
def textDict : Shape := dictOf text

end Shape

end RouterOperator
