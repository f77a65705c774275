import ChartSchema.Command.Diff
import ChartSchema.Command.Generate
import ChartSchema.Command.Init
import ChartSchema.Command.Inspect
import ChartSchema.Command.Validate
/-!
# The program

A command line is read and done. What comes of it is an outcome: success, a failure with its
report, or arguments that end the program before any command.
-/

namespace ChartSchema

/-- What comes of a run. -/
inductive Outcome where
  /-- The command was done. -/
  | done
  /-- The command failed. -/
  | failed (failure : Failure)
  /-- There was no command to do. -/
  | stopped (reason : Arguments.Stop)
  deriving Repr

/-- The exit code of an outcome. -/
def Outcome.exitCode : Outcome → Nat
  | .done => 0
  | .failed failure => failure.exitCode
  | .stopped .misuse => 64
  | .stopped .help | .stopped .version => 0

namespace Program

variable {m : Type → Type} [Monad m] [Host m]

/-- The line about the version of the program. -/
def versionLine : String := "miaka 0.1.0\n"

/-- How the program is called. -/
def usage : String :=
  "Usage: miaka [OPTIONS] <COMMAND>\n\n" ++
  "Commands:\n" ++
  "  generate  Generate the CRD and JSON Schema for a chart\n" ++
  "  inspect   Show the schema inferred from a values file\n" ++
  "  validate  Validate a values file against a JSON Schema or CRD\n" ++
  "  diff      Compare two CRDs and classify the changes\n" ++
  "  init      Add apiVersion and kind to a chart's values.yaml\n"

/-- Do what is asked for. -/
def perform : Arguments.Request → Command m Unit
  | .generate request => Generate.run request
  | .inspect values form => Inspect.run values form
  | .validate document schema asJson => Validate.run document schema asJson
  | .diff old new policy => Diff.run old new policy
  | .init request => Init.run request

/-- What is said in place of a command. -/
def explanation : Arguments.Stop → String
  | .version => versionLine
  | .help | .misuse => usage

/-- Say it, and say whether it was said. What does not reach the output is said to the error output. -/
def explain (reason : Arguments.Stop) : m Bool := do
  let printed ← match reason with
    | .misuse => Host.note (explanation reason)
    | .help | .version => Host.print (explanation reason)
  if printed then return true else Host.note (explanation reason)

/-- Run the program with these arguments. -/
def run (arguments : List String) : m Outcome := do
  match Arguments.parse arguments with
  | .ok request =>
    match ← (perform request).run with
    | .ok () => return .done
    | .error failure => return .failed failure
  | .error reason =>
    if ← explain reason then return .stopped reason else return .failed .unprinted

end Program
end ChartSchema
