import ChartSchema.Crd.Error
import ChartSchema.Files.Host
import ChartSchema.Schema.Error
/-!
# Why a command fails

The causes. Each has an exit code, by which scripts tell the kinds of failure apart, and a
report: the message, the advice if there is any, and the diagnostic code. Where a text could not
be read because it is not in its format, there is no message: only the diagnostic code says so. Where
something could not be printed, there is no report: the program is ended at once.
-/

namespace ChartSchema

/-- Why a command fails. -/
inductive Failure where
  /-- The values document has no schema. -/
  | schema (error : SchemaError)
  /-- The resource definition cannot be made, read or used. -/
  | crd (error : CrdError)
  /-- A document does not match its schema. -/
  | mismatch (instancePath schemaPath : String) (count : Nat)
  /-- The policy does not let the definition take the place of the earlier one. -/
  | breakingChange (reason : String)
  /-- The project file is not one. -/
  | project
  /-- A file cannot be read or written. -/
  | file (path : String) (fault : FileFault)
  /-- A file is no document. -/
  | notDocument
  /-- The command cannot be done with these arguments. -/
  | usage (message : String) (help? : Option String := none)
  /-- What should be printed could not be. -/
  | unprinted
  deriving Repr

namespace Failure

/-- The exit code. -/
def exitCode : Failure → Nat
  | .project => 1
  | .mismatch .. => 2
  | .schema _ | .crd _ => 3
  | .breakingChange _ => 4
  | .file .. => 5
  | .notDocument | .usage .. => 64
  | .unprinted => 101

/-- The diagnostic code. -/
def code? : Failure → Option String
  | .schema error => some error.code
  | .crd error => some error.code
  | .mismatch .. => some "miaka::cli::validation"
  | .breakingChange _ => some "miaka::cli::breaking_change"
  | .project => some "miaka::cli::config"
  | .file .. => some "miaka::cli::io"
  | .notDocument | .usage .. => some "miaka::cli::usage"
  | .unprinted => none

/-- The message; there is none where a reader of a format refuses a text. -/
def message? : Failure → Option String
  | .schema error => error.message?
  | .crd error => error.message?
  | .mismatch instancePath schemaPath count =>
    some ("Validation failed: " ++ instancePath ++ " does not match " ++ schemaPath ++ " (" ++
      Text.counted count "error" "errors" ++ ")")
  | .breakingChange reason => some ("Refusing to replace the existing CRD: " ++ reason)
  | .file path fault => some ("IO error: " ++ path ++ ": " ++ fault.message)
  | .usage message _ => some message
  | .project | .notDocument | .unprinted => none

/-- The advice. -/
def help? : Failure → Option String
  | .schema error => error.help?
  | .crd error => error.help?
  | .mismatch .. =>
    some "fix the values above or regenerate the schema with \x60miaka generate\x60"
  | .breakingChange _ =>
    some ("review the changes above, then rerun with --yes or --policy force to write " ++
      "anyway")
  | .project => some "keys are build, crd, compatibility and output"
  | .notDocument => some "pass a single YAML or JSON document"
  | .usage _ help? => help?
  | .file .. | .unprinted => none

/-- What the error output shows of a failure. -/
def report (failure : Failure) : String :=
  match failure.code? with
  | some code =>
    let help := match failure.help? with
      | some help => "diagnostic help: " ++ help ++ "\n"
      | none => ""
    failure.message?.getD "Unreadable text" ++ "\n    Diagnostic severity: error\n" ++ help ++
      "diagnostic code: " ++ code ++ "\n\n"
  | none => ""

end Failure
end ChartSchema
