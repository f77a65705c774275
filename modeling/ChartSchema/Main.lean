import ChartSchema.Command.Program
/-!
# The command line

The machine that the program runs on, and its entry.
-/

namespace ChartSchema

/-- The fault that an error of the machine is. -/
def faultOf : IO.Error → FileFault
  | .noFileOrDirectory .. => .notFound
  | .alreadyExists .. => .exists
  | .inappropriateType _ 20 _ => .notDirectory
  | .inappropriateType _ 21 _ => .isDirectory
  | error => .other (toString error)

/-- Do something that may fail. -/
def attempt {α : Type} (action : IO α) : IO (Except FileFault α) := do
  match ← action.toBaseIO with
  | .ok a => return .ok a
  | .error error => return .error (faultOf error)

instance : Host IO where
  read path := do
    match ← attempt (IO.FS.readBinFile path) with
    | .ok bytes =>
      match String.fromUTF8? bytes with
      | some text => return .ok text
      | none => return .error .notText
    | .error fault => return .error fault
  present path := do
    match ← attempt (IO.FS.withFile path .read fun _ => pure ()) with
    | .error .notFound | .error .notDirectory => return false
    | _ => return true
  write path text := attempt (IO.FS.writeFile path text)
  makeFolder path := attempt (IO.FS.createDirAll path)
  properName? path := do
    match ← attempt (IO.FS.realPath path) with
    | .ok found => return (Path.segments (toString found)).getLast?
    | .error _ => return none
  print text := return (← attempt (IO.print text)).toBool
  note text := return (← attempt (IO.eprint text)).toBool

end ChartSchema

open ChartSchema in
/-- Run the program, and end with its exit code. -/
def main (arguments : List String) : IO UInt32 := do
  let outcome : Outcome ← Program.run arguments
  let reported ← match outcome with
    | .failed failure => Host.note failure.report
    | _ => pure true
  return (if reported then outcome.exitCode else Failure.unprinted.exitCode).toUInt32
