import ChartSchema.Compatibility.Analysis
import ChartSchema.Text.Basic
/-!
# Compatibility policies

A policy decides whether a definition may take the place of an earlier one. A definition without
an earlier one always may.
-/

namespace ChartSchema

/-- What a policy decides. -/
inductive Decision where
  /-- The later definition may take the place. -/
  | accept
  /-- It may not, because of these changes. -/
  | reject (reason : String) (blocking : List Change)
  deriving Repr

/-- Which changes are let through. -/
inductive Policy where
  /-- All but dangerous ones. -/
  | safe
  /-- Safe ones only. -/
  | strict
  /-- All. -/
  | force
  deriving Repr, DecidableEq, Inhabited

namespace Policy

/-- The name of a policy. -/
def name : Policy → String
  | .safe => "safe"
  | .strict => "strict"
  | .force => "force"

/-- The policy of a name. -/
def ofName? (name : String) : Option Policy :=
  if name = "safe" then some .safe
  else if name = "strict" then some .strict
  else if name = "force" then some .force
  else none

/-- The policy of a name, letters in either case. -/
def parse? (text : String) : Option Policy := ofName? (Text.asciiLower text)

/-- The message about a text that names no policy. -/
def unknownMessage (text : String) : String :=
  "unknown policy '" ++ Text.asciiLower text ++ "', expected safe, strict or force"

/-- The least severity of the changes that a policy stops, and what such changes are called. -/
def threshold? : Policy → Option (Severity × String)
  | .safe => some (.dangerous, "dangerous")
  | .strict => some (.warning, "breaking or risky")
  | .force => none

/-- What a policy decides about a comparison. -/
def decide (policy : Policy) (a : Analysis) : Decision :=
  match policy.threshold? with
  | none => .accept
  | some (least, word) =>
    if a.isNew then .accept
    else
      let blocking := a.changes.filter fun change => least.rank ≤ change.severity.rank
      if blocking.isEmpty then .accept
      else .reject (toString blocking.length ++ " " ++ word ++ " change(s) detected") blocking

end Policy
end ChartSchema
