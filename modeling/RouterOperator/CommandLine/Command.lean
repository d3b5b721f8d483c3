import RouterOperator.CommandLine.Arguments
import RouterOperator.Config.Render
import RouterOperator.Definition.Resource
import RouterOperator.Interconnect.Defaults
import RouterOperator.Json.Reader
import RouterOperator.Json.Writer

/-!
# Commands

What can be asked for without a cluster: the definition of clusters, the configuration that a
cluster's routers would get, and the options that an operator would start with.
-/

namespace RouterOperator

/-- A command. -/
inductive Command where
  /-- Print the definition of clusters. -/
  | definition
  /-- Print the configuration for the cluster that is read. -/
  | config (certManager : Bool)
  /-- Print the options that these arguments give. -/
  | options (arguments : List String)
deriving DecidableEq

/-- Why a command has no output. -/
inductive CommandError where
  | unknownCommand
  | badManifest
  | badOptions (reason : UsageError)
deriving DecidableEq

/-- What is wrong with a command line. -/
def UsageError.message : UsageError → String
  | unknownArgument => "an argument is not known"
  | missingValue => "a flag has no value"
  | badValue => "a value is not valid"
  | repeatedFlag => "a flag is given twice"
  | unexpectedValue => "a flag takes no value"
  | help => "flags: " ++ String.intercalate ", " (Flag.all.map fun flag => "--" ++ flag.name)
  | version => "version 0.1.0"

/-- The text of an error. -/
def CommandError.message : CommandError → String
  | unknownCommand => "commands: definition, config [--cert-manager], options [FLAG VALUE]..."
  | badManifest => "the input is not a cluster"
  | badOptions reason => reason.message

namespace OperatorOptions

/-- A duration as a number of seconds and nanoseconds. -/
def durationText (duration : Duration) : String :=
  s!"{duration.seconds}s {duration.subsecondNanos}ns"

/-- The options, one a line. -/
def text (options : OperatorOptions) : String :=
  String.join <| [
    (Flag.watchNamespace, options.watchNamespace),
    (Flag.routerImage, options.routerImage),
    (Flag.bind, options.bind),
    (Flag.passTimeout, durationText options.passTimeout),
    (Flag.errorRequeue, durationText options.errorRequeue)].map fun (flag, value) =>
      flag.name ++ ": " ++ value ++ "\n"

end OperatorOptions

namespace Command

/-- The command that arguments name. -/
def ofArguments? : List String → Option Command
  | ["definition"] => some definition
  | ["config"] => some (config false)
  | ["config", "--cert-manager"] => some (config true)
  | "options" :: arguments => some (options arguments)
  | _ => none

/-- Whether a command reads its input. -/
def readsInput : Command → Bool
  | config _ => true
  | definition | options _ => false

/-- The output of a command in an environment, given the text that it reads. -/
def output (command : Command) (env : List (String × String)) (input : String) :
    Except CommandError String :=
  match command with
  | definition => .ok (Interconnect.definition.compact ++ "\n")
  | config certManager =>
    match (Json.parse? input).bind Interconnect.ofJson? with
    | some cluster => .ok (cluster.spec.normalize certManager).spec.render
    | none => .error .badManifest
  | options arguments =>
    match OperatorOptions.ofArguments arguments env with
    | .ok resolved => .ok resolved.text
    | .error reason => .error (.badOptions reason)

end Command

end RouterOperator
