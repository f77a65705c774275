import ChartSchema.Text.Basic
/-!
# The layout of reports

What the reports of the program have in common: they are lists of lines, and rules divide their
parts.
-/

namespace ChartSchema.Report

/-- The text of lines, each with its end. -/
def ofLines (lines : List String) : String := Text.joinWith "" (lines.map (· ++ "\n"))

/-- A line made of one character. -/
def rule (c : Char) : String := String.ofList (List.replicate 66 c)

end ChartSchema.Report
