import RouterOperator.Duration
import RouterOperator.Managed.Workload

/-!
# Operator options

What an operator is told when it starts. Each option has a flag and an environment variable; the
flag wins, and an option with neither has a default.
-/

namespace RouterOperator

/-- An option of the operator. -/
inductive Flag where
  | watchNamespace
  | routerImage
  | bind
  | passTimeout
  | errorRequeue
deriving DecidableEq

namespace Flag

/-- All options. -/
def all : List Flag := [watchNamespace, routerImage, bind, passTimeout, errorRequeue]

/-- The name of an option, as it follows two dashes. -/
def name : Flag → String
  | watchNamespace => "watch-namespace"
  | routerImage => "router-image"
  | bind => "bind"
  | passTimeout => "pass-timeout"
  | errorRequeue => "error-requeue"

/-- The environment variable of an option. -/
def envName : Flag → String
  | watchNamespace => "WATCH_NAMESPACE"
  | routerImage => "QDROUTERD_IMAGE"
  | bind => "BIND_ADDRESS"
  | passTimeout => "PASS_TIMEOUT"
  | errorRequeue => "ERROR_REQUEUE"

/-- The option of this name. -/
def ofName? (name : String) : Option Flag := all.find? (·.name = name)

end Flag

/-- The options that have been given so far. -/
structure GivenOptions where
  watchNamespace : Option String := none
  routerImage : Option String := none
  bind : Option String := none
  passTimeout : Option Duration := none
  errorRequeue : Option Duration := none

namespace GivenOptions

/-- Whether an option has been given. -/
def has (given : GivenOptions) : Flag → Bool
  | .watchNamespace => given.watchNamespace.isSome
  | .routerImage => given.routerImage.isSome
  | .bind => given.bind.isSome
  | .passTimeout => given.passTimeout.isSome
  | .errorRequeue => given.errorRequeue.isSome

/-- Gives an option a value, if the value is a valid one. -/
def set? (given : GivenOptions) (flag : Flag) (value : String) : Option GivenOptions :=
  match flag with
  | .watchNamespace => some { given with watchNamespace := some value }
  | .routerImage => some { given with routerImage := some value }
  | .bind => some { given with bind := some value }
  | .passTimeout =>
    (Duration.parse? value).map fun duration => { given with passTimeout := some duration }
  | .errorRequeue =>
    (Duration.parse? value).map fun duration => { given with errorRequeue := some duration }

end GivenOptions

/-- The options of an operator. -/
structure OperatorOptions where
  /-- The namespace to watch; all namespaces when empty. -/
  watchNamespace : String := ""
  /-- The image of routers whose plan names none. -/
  routerImage : String := defaultRouterImage
  /-- The address of the health and diagnostics server. -/
  bind : String := "0.0.0.0:8080"
  /-- The time that the calls of one pass may take. -/
  passTimeout : Duration := .ofSeconds 30
  /-- How long to wait after a pass that failed. -/
  errorRequeue : Duration := .ofSeconds 300

namespace OperatorOptions

/-- The options given, with defaults for the others. -/
def ofGiven (given : GivenOptions) : OperatorOptions :=
  let default : OperatorOptions := {}
  { watchNamespace := given.watchNamespace.getD default.watchNamespace
    routerImage := given.routerImage.getD default.routerImage
    bind := given.bind.getD default.bind
    passTimeout := given.passTimeout.getD default.passTimeout
    errorRequeue := given.errorRequeue.getD default.errorRequeue }

/-- The one namespace to watch, or none for all of them. -/
def onlyNamespace (options : OperatorOptions) : Option String :=
  Text.given (some options.watchNamespace)

end OperatorOptions

end RouterOperator
