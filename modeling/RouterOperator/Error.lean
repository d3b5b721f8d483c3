/-!
# Errors

Why a pass ends without an outcome. Losing a race and running out of time are retried right away,
all other errors after a delay.
-/

namespace RouterOperator

/-- A failed request to the cluster: refused by its API with a code, a reason and a message, or lost
for some other cause. -/
inductive RequestFailure where
  | api (code : Nat) (reason message : String)
  | other
deriving DecidableEq

/-- Why a pass, or what leads to one, ends without a result. -/
inductive Error where
  /-- The cluster could not be asked what it serves. -/
  | probe
  /-- An object that should exist does not. -/
  | notFound (message : String)
  /-- An object has changed since it was read. -/
  | conflict (message : String)
  /-- The store is unavailable, or has refused a request. -/
  | transient
  /-- Time ran out before a call. -/
  | deadlineExceeded (before : String)
  /-- A part of an object's key is missing. -/
  | missingObjectKey (part : String)
deriving DecidableEq

namespace Error

/-- The text of an error, for those that say more than what has happened. -/
def message? : Error → Option String
  | probe | transient => none
  | notFound message => some s!"Not Found: {message}"
  | conflict message => some s!"Conflict: {message}"
  | deadlineExceeded before => some s!"Deadline Exceeded before {before}"
  | missingObjectKey part => some s!"Missing Object Key: {part}"

/-- Whether to try again right away. -/
def isFastRetry : Error → Bool
  | conflict _ | deadlineExceeded _ => true
  | _ => false

/-- The error that a failed request stands for. -/
def ofRequest : RequestFailure → Error
  | .api code _ message =>
    if code = 404 then notFound message
    else if code = 409 then conflict message
    else transient
  | .other => transient

end Error

end RouterOperator
