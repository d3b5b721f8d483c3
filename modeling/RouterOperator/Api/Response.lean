import RouterOperator.Error
import RouterOperator.Json.Reader
import RouterOperator.Json.Record
import RouterOperator.Text.Quoted

/-!
# Responses of the cluster API

A response is refused if its code says so, and then its body should be a status that says why. Any
other response must carry what was asked for. No response at all is a failure of its own.
-/

namespace RouterOperator

/-- A response: its code and the text of its body. -/
structure Response where
  code : Nat
  body : String
deriving DecidableEq

namespace Response

variable {α : Type}

/-- A code that fits sixteen bits. -/
def code? : Json → Option Nat
  | .integer code => if 0 ≤ code ∧ code < 65536 then some code.toNat else none
  | _ => none

/-- Why a request was refused, if a body says so. -/
def status? (json : Json) : Option RequestFailure := do
  let members ← json.record? ["status", "message", "reason", "code"] 4
  let _ ← members.required "status" Json.string?
  let message ← members.defaulted "message" Json.string? ""
  let reason ← members.defaulted "reason" Json.string? ""
  return .api (← members.required "code" code?) reason message

/-- Whether a response says that the request was refused. -/
def isRefusal (response : Response) : Bool := 400 ≤ response.code && response.code < 600

/-- Why a request was refused; a body that is no status becomes the message. -/
def refusal (response : Response) : RequestFailure :=
  ((Json.parse? response.body).bind status?).getD
    (.api response.code "Failed to parse error data" (Text.quoted response.body))

/-- What a response carries. -/
def result (read : Json → Option α) (response : Response) : Except RequestFailure α :=
  if response.isRefusal then .error response.refusal
  else
    match (Json.parse? response.body).bind read with
    | some value => .ok value
    | none => .error .other

/-- What the answer to a request carries; there may have been none. -/
def resultOf (read : Json → Option α) : Option Response → Except RequestFailure α
  | some response => response.result read
  | none => .error .other

end Response

end RouterOperator
