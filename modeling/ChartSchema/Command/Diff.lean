import ChartSchema.Command.Basic
import ChartSchema.Compatibility.Policy
import ChartSchema.Report.Changes
/-!
# Comparing two resource definitions
-/

namespace ChartSchema.Diff

variable {m : Type → Type} [Monad m] [Host m]

/-- The definition in a file. -/
def readCrd (path : String) : Command m CrdView := do
  Command.ofCrd (CrdView.parse (← Command.read path))

/-- Show how one definition differs from an earlier one, and what a policy says about that. -/
def run (old new : String) (policy : Policy) : Command m Unit := do
  let previous ← readCrd old
  let current ← readCrd new
  let analysis := Analysis.compare (some previous) current
  Command.print (Report.ofAnalysis analysis)
  match policy.decide analysis with
  | .accept => Command.print ("\n✓ Accepted by the " ++ policy.name ++ " policy\n")
  | .reject reason _ => throw (.breakingChange reason)

end ChartSchema.Diff
