import RouterOperator.CommandLine.Options
import RouterOperator.Reconcile.Pass

/-!
# Operator context

What an operator works with once it has started: the settings of its passes, its delays, and what it
can tell about itself.
-/

namespace RouterOperator

/-- What an operator tells about itself. -/
structure Diagnostics where
  /-- The number of passes so far. -/
  reconcileCount : Nat := 0
  capabilities : Capabilities := {}
deriving DecidableEq, Inhabited

/-- What an operator works with. -/
structure OperatorContext where
  settings : Settings
  passTimeout : Duration
  errorRequeue : Duration
  diagnostics : Diagnostics

/-- The context of an operator with these options, on a platform with these capabilities. -/
def OperatorContext.of (options : OperatorOptions) (capabilities : Capabilities) :
    OperatorContext where
  settings := { capabilities, routerImage := options.routerImage }
  passTimeout := options.passTimeout
  errorRequeue := options.errorRequeue
  diagnostics := { capabilities }

end RouterOperator
