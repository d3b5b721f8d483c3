import RouterOperator.Json.Record

/-!
# Field schemas

What the cluster API is told about the fields of an object. A field that no schema declares is
pruned when the object is stored, so a schema has to declare everything that is ever written.
-/

namespace RouterOperator

/-- The schema of a field. The last four constructors add to a schema. -/
inductive FieldSchema where
  /-- A text, one of the choices if there are any. -/
  | text (choices : List String)
  | int32
  | flag
  | listOf (item : FieldSchema)
  | record (properties : List (String × FieldSchema))
  /-- An object whose fields are kept, whatever they are. -/
  | anyFields
  | described (description : String) (schema : FieldSchema)
  /-- A field that gets a value when it is absent. -/
  | defaulting (absent : Json) (schema : FieldSchema)
  | nullable (schema : FieldSchema)
  /-- A field that must be present. -/
  | required (schema : FieldSchema)

namespace FieldSchema

/-- Any text. -/
def anyText : FieldSchema := text []

/-- A text that may be absent. -/
def optionalText : FieldSchema := nullable anyText

/-- A number that may be absent. -/
def optionalInt32 : FieldSchema := nullable int32

/-- Whether a field must be present. -/
def isRequired : FieldSchema → Bool
  | required _ => true
  | described _ schema | defaulting _ schema | nullable schema => schema.isRequired
  | _ => false

/-- The names of the properties that must be present. -/
def requiredNames (properties : List (String × FieldSchema)) : List String :=
  (properties.filter fun property => property.2.isRequired).map (·.1)

/-- The value that a field gets when it is absent. -/
def absent? : FieldSchema → Option Json
  | defaulting absent _ => some absent
  | described _ schema | nullable schema | required schema => schema.absent?
  | _ => none

/-- The names of the properties that get a value when they are absent. -/
def defaultedNames (properties : List (String × FieldSchema)) : List String :=
  (properties.filter fun property => property.2.absent?.isSome).map (·.1)

/-- The type of a field as an entry. -/
def typeEntry (name : String) : String × Json := ("type", .string name)

mutual

/-- The entries of a schema. -/
def entries : FieldSchema → List (String × Json)
  | text choices =>
    (if choices.isEmpty then [] else [("enum", .list .string choices)]) ++ [typeEntry "string"]
  | int32 => [("format", .string "int32"), typeEntry "integer"]
  | flag => [typeEntry "boolean"]
  | listOf item => [("items", .object item.entries), typeEntry "array"]
  | record properties =>
    [("properties", .object (propertyEntries properties))] ++
      (match requiredNames properties with
        | [] => []
        | names => [("required", .list .string names)]) ++ [typeEntry "object"]
  | anyFields => [typeEntry "object", ("x-kubernetes-preserve-unknown-fields", .bool true)]
  | described description schema => ("description", .string description) :: schema.entries
  | defaulting absent schema => ("default", absent) :: schema.entries
  | nullable schema => ("nullable", .bool true) :: schema.entries
  | required schema => schema.entries

/-- The entries of the properties of a record. -/
def propertyEntries : List (String × FieldSchema) → List (String × Json)
  | [] => []
  | (name, schema) :: rest => (name, .object schema.entries) :: propertyEntries rest

end

/-- Writes a schema. -/
def toJson (schema : FieldSchema) : Json := .object schema.entries

mutual

/-- Whether a value is stored as it is: it has the declared type, nothing in it is pruned, and
nothing that has a default is absent. -/
def keeps : FieldSchema → Json → Bool
  | text choices, .string value => choices.isEmpty || choices.contains value
  | int32, .integer value => -2147483648 ≤ value && value ≤ 2147483647
  | flag, .bool _ => true
  | listOf item, .array items => items.all item.keeps
  | record properties, .object members =>
    (requiredNames properties ++ defaultedNames properties).all
        (fun name => members.any (·.1 = name)) &&
      members.all fun member => keepsMember properties member.1 member.2
  | anyFields, .object _ => true
  | nullable _, .null => true
  | described _ schema, json | defaulting _ schema, json | nullable schema, json
  | required schema, json => schema.keeps json
  | _, _ => false

/-- Whether a member is declared, and its value stored as it is. -/
def keepsMember : List (String × FieldSchema) → String → Json → Bool
  | [], _, _ => false
  | (name, schema) :: rest, member, json =>
    if name = member then schema.keeps json else keepsMember rest member json

end

end FieldSchema

end RouterOperator
