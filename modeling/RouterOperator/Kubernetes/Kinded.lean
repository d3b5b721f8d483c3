import RouterOperator.Schema.Object
import RouterOperator.Kubernetes.Metadata

/-!
# Objects with a kind

Every object states its API version and its kind. Objects of the cluster's own API may be read
without them, but not with others than their own.
-/

namespace RouterOperator

/-- An API version and a kind. -/
structure ApiType where
  apiVersion : String
  kind : String
  plural : String
deriving DecidableEq

namespace ApiType

/-- The API version and the kind as fields of an object. -/
def fields (type : ApiType) : List (String × Option Json) :=
  [("apiVersion", some (.string type.apiVersion)), ("kind", some (.string type.kind))]

/-- Whether a text is all that is given for a member, if anything is. -/
def allows (members : Dict Json) (name value : String) : Bool :=
  members.entries.all fun member => member.1 ≠ name || member.2.string? = some value

/-- The members of an object of this type, in the form its shape has. -/
def clean? (type : ApiType) (shape : Shape) (json : Json) : Option (Dict Json) := do
  let members ← json.members?
  if allows members "apiVersion" type.apiVersion && allows members "kind" type.kind then
    (shape.clean json).bind Json.members?
  else none

end ApiType

end RouterOperator
