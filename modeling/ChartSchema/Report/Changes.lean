import ChartSchema.Compatibility.Analysis
import ChartSchema.Report.Layout
/-!
# The report of a comparison

What `diff` and `generate` tell about the changes of a resource definition: the changes by
section, each with its old and new side, and how many there are of each severity.
-/

namespace ChartSchema.Report

/-- The sections of the report. -/
inductive Section where
  /-- What versions there are. -/
  | versions
  /-- What the schemas say. -/
  | schema
  /-- The identity and the names. -/
  | other
  deriving Repr, DecidableEq

/-- The heading of a section. -/
def Section.heading : Section → String
  | .versions => "Versions"
  | .schema => "Schema Changes"
  | .other => "Other Changes"

/-- The section that a change belongs to. -/
def Section.ofChange : Change → Section
  | .versionAdded _ | .versionRemoved _ | .storage .. => .versions
  | .scope .. | .group .. | .kindName .. | .shortNameAdded _ | .shortNameRemoved _
  | .categoryAdded _ => .other
  | .property .. => .schema

/-- The lines about a change. -/
def changeLines (change : Change) : List String :=
  let head := "  " ++ change.severity.icon ++ " " ++ change.sign ++ " " ++ change.message
  match change.sides with
  | (some old, some new) => [head, "      " ++ old ++ " → " ++ new]
  | _ => [head]

/-- The lines of a section, if it has any change. -/
def sectionLines (changes : List Change) (part : Section) : List String :=
  let own := changes.filter fun change => Section.ofChange change = part
  if own.isEmpty then [] else ["", part.heading ++ ":"] ++ own.flatMap changeLines

/-- The line that counts the changes of a severity, if there are any. -/
def countLine (a : Analysis) (severity : Severity) (one many : String) : List String :=
  let n := (a.changesOf severity).length
  if n = 0 then [] else ["  " ++ severity.icon ++ " " ++ Text.counted n one many]

/-- The lines that count the changes. -/
def summaryLines (a : Analysis) : List String :=
  ["", rule '─', "Summary:"] ++
    countLine a .safe "safe change" "safe changes" ++
    countLine a .warning "warning" "warnings" ++
    countLine a .dangerous "dangerous change" "dangerous changes" ++ [rule '─']

/-- The lines about what was found. -/
def bodyLines (a : Analysis) : List String :=
  if a.isNew then ["  ✓ New CRD - will be created"]
  else if a.changes.isEmpty then ["  ✓ No changes detected"]
  else [Section.versions, .schema, .other].flatMap (sectionLines a.changes) ++ summaryLines a

/-- The report of a comparison. -/
def ofAnalysis (a : Analysis) : String :=
  ofLines (["", "CRD Analysis: " ++ a.name, rule '═'] ++ bodyLines a)

end ChartSchema.Report
