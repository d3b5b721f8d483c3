import RouterOperator.Api.Target
import RouterOperator.Error
import RouterOperator.Json.Writer
import RouterOperator.Kubernetes.Kinded
import RouterOperator.Text.FormEncoded

/-!
# Requests to the cluster API

Objects of a type live in a collection of their namespace. A request that names an object needs a
name, and no request is sent whose target is not a valid one. The body of a request is JSON, and a
server may quote its text, so the order of its members is fixed.
-/

namespace RouterOperator

/-- The method of a request. -/
inductive Method where
  | get
  | post
  | put
  | patch
deriving DecidableEq

/-- The name of a method. -/
def Method.name : Method → String
  | get => "GET"
  | post => "POST"
  | put => "PUT"
  | patch => "PATCH"

/-- A request with its body, if it has one. -/
structure ApiRequest where
  method : Method
  target : Target
  body : Option Json := none

namespace ApiRequest

/-- The content type of a body; a patch is a merge patch. -/
def contentType (request : ApiRequest) : Option String :=
  request.body.map fun _ =>
    if request.method = .patch then "application/merge-patch+json" else "application/json"

/-- The text of the body, or none. An object is written field by field as its type lists them; the
members of a patch are written in ascending order. -/
def bodyText (request : ApiRequest) : String :=
  match request.method, request.body with
  | _, none => ""
  | .patch, some body => body.ordered.compact
  | _, some body => body.compact

/-- The path of the collection of a type in a namespace. The types of the core API have a root of
their own. -/
def collectionPath (type : ApiType) (ns : String) : String :=
  let root := if type.apiVersion.contains '/' then "/apis/" else "/api/"
  s!"{root}{type.apiVersion}/namespaces/{ns}/{type.plural}"

/-- A request to a target, if that is a valid one. -/
def to? (method : Method) (target : String) (body : Option Json) :
    Except RequestFailure ApiRequest :=
  match Target.parse? target with
  | some target => .ok { method, target, body }
  | none => .error .other

/-- A request for an object, which must have a name. What follows the name is given by `rest`. -/
def named? (method : Method) (type : ApiType) (ns name rest : String) (body : Option Json) :
    Except RequestFailure ApiRequest :=
  if name = "" then .error .other
  else to? method s!"{collectionPath type ns}/{name}{rest}" body

/-- A request for an object with a name can be made where its target is valid, whichever root the
type has. -/
theorem exists_named {method : Method} {type : ApiType} {ns name rest : String} {body : Option Json}
    (hname : name ≠ "")
    (hvalid : ∀ path ∈ ["/apis/", "/api/"].map fun root =>
        s!"{root}{type.apiVersion}/namespaces/{ns}/{type.plural}",
      (Target.parse? s!"{path}/{name}{rest}").isSome) :
    ∃ request, named? method type ns name rest body = .ok request := by
  have hpath : collectionPath type ns ∈ ["/apis/", "/api/"].map fun root =>
      s!"{root}{type.apiVersion}/namespaces/{ns}/{type.plural}" := by
    unfold collectionPath
    split <;> simp
  obtain ⟨target, htarget⟩ := Option.isSome_iff_exists.mp (hvalid _ hpath)
  rw [named?, if_neg hname, to?, htarget]
  exact ⟨_, rfl⟩

/-- Reads an object. -/
def get? (type : ApiType) (ns name : String) : Except RequestFailure ApiRequest :=
  named? .get type ns name "" none

/-- Lists the objects that a label selector selects. -/
def list? (type : ApiType) (ns selector : String) : Except RequestFailure ApiRequest :=
  to? .get s!"{collectionPath type ns}?&labelSelector={Text.formEncoded selector}" none

/-- Creates an object. -/
def create? (type : ApiType) (ns : String) (object : Json) : Except RequestFailure ApiRequest :=
  to? .post s!"{collectionPath type ns}?" object

/-- Replaces an object. -/
def replace? (type : ApiType) (ns name : String) (object : Json) :
    Except RequestFailure ApiRequest :=
  named? .put type ns name "?" object

/-- Merges a patch into an object. -/
def patch? (type : ApiType) (ns name : String) (patch : Json) :
    Except RequestFailure ApiRequest :=
  named? .patch type ns name "?" patch

/-- Merges a patch into the status of an object. -/
def patchStatus? (type : ApiType) (ns name : String) (patch : Json) :
    Except RequestFailure ApiRequest :=
  named? .patch type ns name "/status?" patch

end ApiRequest

end RouterOperator
