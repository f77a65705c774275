import ChartSchema.Report.Layout
/-!
# The report of findings

What was found in a values document, one line for each finding, and the verdict.
-/

namespace ChartSchema.Report

/-- One thing found in a document. -/
structure Finding where
  /-- Whether it is an error and not only a warning. -/
  isError : Bool
  /-- Where it was found. -/
  location : String
  /-- The line, if it is known. -/
  line? : Option Nat := none
  /-- What was found. -/
  message : String
  /-- What to do about it. -/
  hint? : Option String := none
  deriving Repr

/-- How many findings are errors, and how many are warnings. -/
def findingCounts (findings : List Finding) : Nat × Nat :=
  let errors := (findings.filter (·.isError)).length
  (errors, findings.length - errors)

/-- The lines about a finding. -/
def findingLines (finding : Finding) : List String :=
  let icon := if finding.isError then "✗" else "⚠"
  let place := match finding.line? with
    | some line => finding.location ++ ":" ++ toString line
    | none => finding.location
  let head := "  " ++ icon ++ " " ++ finding.message ++ " " ++ place
  match finding.hint? with
  | some hint => [head, "    hint: " ++ hint]
  | none => [head]

/-- The findings of a document, under its name; nothing if there are none. -/
def ofFindings (source : String) (findings : List Finding) : String :=
  if findings.isEmpty then ""
  else ofLines (["", source] ++ findings.flatMap findingLines)

/-- The verdict on a document. -/
def verdict (findings : List Finding) : String :=
  match findingCounts findings with
  | (0, 0) => ofLines ["✓ Validation passed"]
  | (0, warnings) =>
    ofLines ["⚠ Validation passed with " ++ Text.counted warnings "warning" "warnings"]
  | (errors, _) => ofLines ["✗ Validation failed: " ++ Text.counted errors "error" "errors"]

end ChartSchema.Report
