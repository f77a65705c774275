import ChartSchema.Command.Failure
import ChartSchema.Files.Path
/-!
# Commands

A command runs on a machine and may fail. What it needs from the rest of the library may fail
too, each part with errors of its own kind; here they become failures.
-/

namespace ChartSchema

/-- A command: it runs on a machine and may fail. -/
abbrev Command (m : Type → Type) := ExceptT Failure m

namespace Command

variable {m : Type → Type} [Monad m] [Host m]

/-- A result that does not depend on the machine. -/
def ofResult {α : Type} (result : Except Failure α) : Command m α := ExceptT.mk (pure result)

/-- What comes out of schema inference. -/
def ofSchema {α : Type} (result : Except SchemaError α) : Command m α :=
  ofResult (result.mapError .schema)

/-- What comes out of work on resource definitions. -/
def ofCrd {α : Type} (result : Except CrdError α) : Command m α :=
  ofResult (result.mapError .crd)

/-- What comes out of an access to the file at a path. -/
def ofFile {α : Type} (path : String) (access : m (Except FileFault α)) : Command m α :=
  ExceptT.mk do return (← access).mapError (.file path)

/-- Print, and go on if it was printed. -/
def ofPrint (printed : m Bool) : Command m Unit :=
  ExceptT.mk do return if ← printed then .ok () else .error .unprinted

/-- Print to the output. -/
def print (text : String) : Command m Unit := ofPrint (Host.print text)

/-- Print to the error output. -/
def note (text : String) : Command m Unit := ofPrint (Host.note text)

/-- Whether a path leads to something. -/
def present (path : String) : Command m Bool := ExceptT.lift (Host.present path)

/-- The text of a file. -/
def read (path : String) : Command m String := ofFile path (Host.read path)

/-- Write a file, and make its folder first. -/
def write (path text : String) : Command m Unit := do
  match Path.folder? path with
  | some "" | none => pure ()
  | some folder => ofFile folder (Host.makeFolder folder)
  ofFile path (Host.write path text)

end Command
end ChartSchema
