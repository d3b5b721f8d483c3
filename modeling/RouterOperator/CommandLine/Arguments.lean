import RouterOperator.CommandLine.Options

/-!
# Command lines

Reading options from arguments: `--flag value` or `--flag=value`, each flag at most once. A value is
judged when the next flag, or the end, shows that it is complete, so an argument that is unknown by
itself is reported before a bad value that precedes it.
-/

namespace RouterOperator

/-- Why a command line gives no options. -/
inductive UsageError where
  | unknownArgument
  /-- A flag has no value. -/
  | missingValue
  /-- A flag has a value that is not a valid one. -/
  | badValue
  /-- A flag is given twice. -/
  | repeatedFlag
  /-- A flag that takes no value is given one. -/
  | unexpectedValue
  /-- Help is asked for. -/
  | help
  /-- The version is asked for. -/
  | version
deriving DecidableEq

/-- An argument by its form. -/
inductive Argument where
  /-- Two dashes alone: no flags follow. -/
  | separator
  /-- Two dashes and a name, perhaps with a value. -/
  | flag (name : String) (value : Option String)
  /-- One dash and letters. -/
  | letters (first : Char)
  | value (text : String)
deriving DecidableEq

namespace Argument

/-- The form of an argument. -/
def ofText (text : String) : Argument :=
  match text.toList with
  | ['-', '-'] => separator
  | '-' :: '-' :: rest =>
    let name := String.ofList (rest.takeWhile (· ≠ '='))
    match rest.dropWhile (· ≠ '=') with
    | [] => flag name none
    | _ :: rest => flag name (some (String.ofList rest))
  | '-' :: first :: _ => letters first
  | _ => value text

end Argument

/-- A flag with its value, not yet judged. -/
structure PendingFlag where
  flag : Flag
  value : Option String

/-- How far a command line has been read. -/
structure CommandLine where
  given : GivenOptions := {}
  pending : Option PendingFlag := none
  /-- No flags follow. -/
  ended : Bool := false

namespace CommandLine

/-- Gives a flag its value. -/
def give (line : CommandLine) (flag : Flag) (value : String) : Except UsageError CommandLine :=
  if line.given.has flag then .error .repeatedFlag
  else
    match line.given.set? flag value with
    | some given => .ok { line with given, pending := none }
    | none => .error .badValue

/-- Judges the flag that was read last. -/
def settle (line : CommandLine) : Except UsageError CommandLine :=
  match line.pending with
  | none => .ok line
  | some ⟨_, none⟩ => .error .missingValue
  | some ⟨flag, some value⟩ => line.give flag value

/-- Settles what came before and then stops. -/
def stop (line : CommandLine) (reason : UsageError) : Except UsageError CommandLine := do
  let _ ← line.settle
  .error reason

/-- Reads one argument. -/
def read (line : CommandLine) (argument : Argument) : Except UsageError CommandLine :=
  if line.ended then .error .unknownArgument
  else
    match argument with
    | .separator => .ok { line with ended := true }
    | .flag "help" none => line.stop .help
    | .flag "version" none => line.stop .version
    | .flag "help" (some _) | .flag "version" (some _) => .error .unexpectedValue
    | .flag name value =>
      match Flag.ofName? name with
      | none => .error .unknownArgument
      | some flag => do
        let line ← line.settle
        match value with
        | some value => line.give flag value
        | none => return { line with pending := some ⟨flag, none⟩ }
    | .letters 'h' => line.stop .help
    | .letters 'V' => line.stop .version
    | .letters _ => .error .unknownArgument
    | .value text =>
      match line.pending with
      | some ⟨flag, none⟩ => .ok { line with pending := some ⟨flag, some text⟩ }
      | _ => .error .unknownArgument

end CommandLine

namespace GivenOptions

/-- Gives an option the value of its environment variable, unless it has been given. -/
def fillFrom (env : List (String × String)) (given : GivenOptions) (flag : Flag) :
    Except UsageError GivenOptions :=
  if given.has flag then .ok given
  else
    match env.lookup flag.envName with
    | none => .ok given
    | some value =>
      match given.set? flag value with
      | some given => .ok given
      | none => .error .badValue

end GivenOptions

/-- The options of a command line in an environment. -/
def OperatorOptions.ofArguments (arguments : List String) (env : List (String × String)) :
    Except UsageError OperatorOptions := do
  let line ← (arguments.map Argument.ofText).foldlM CommandLine.read {}
  let line ← line.settle
  let given ← Flag.all.foldlM (GivenOptions.fillFrom env) line.given
  return .ofGiven given

end RouterOperator
