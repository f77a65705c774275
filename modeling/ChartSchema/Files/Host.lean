/-!
# The machine that a command runs on

A command reads and writes files and prints. `Host m` says that programs in `m` can do so; the
commands are written for every such `m`, so that they run on a real machine and on a `Session`,
which is a value.
-/

namespace ChartSchema

/-- Why a file cannot be read or written. -/
inductive FileFault where
  /-- There is nothing at the path. -/
  | notFound
  /-- The path goes on behind a file. -/
  | notDirectory
  /-- A folder is where a file is wanted. -/
  | isDirectory
  /-- A file is where a folder is wanted. -/
  | exists
  /-- A segment of the path is longer than a name may be. -/
  | nameTooLong
  /-- The path holds a character that no name can have. -/
  | unnameable
  /-- The bytes of the file are no text. -/
  | notText
  /-- Another reason, in words. -/
  | other (reason : String)
  deriving Repr, DecidableEq

/-- The words for a fault. -/
def FileFault.message : FileFault → String
  | .notFound => "No such file or directory (os error 2)"
  | .notDirectory => "Not a directory (os error 20)"
  | .isDirectory => "Is a directory (os error 21)"
  | .exists => "File exists (os error 17)"
  | .nameTooLong => "File name too long (os error 36)"
  | .unnameable => "file name contained an unexpected NUL byte"
  | .notText => "stream did not contain valid UTF-8"
  | .other reason => reason

/-- What a command asks of the machine that it runs on. -/
class Host (m : Type → Type) where
  /-- The text of a file. -/
  read : String → m (Except FileFault String)
  /-- Whether a path leads to something. -/
  present : String → m Bool
  /-- Give a file a text, and make the file if it is not there. Where this fails, the file may have
  been emptied and hold a beginning of the text. -/
  write : String → String → m (Except FileFault Unit)
  /-- Make a folder, and those it lies in. Where this fails, some of these may have been made. -/
  makeFolder : String → m (Except FileFault Unit)
  /-- The name of what a path leads to, links and dots resolved. -/
  properName? : String → m (Option String)
  /-- Print to the output, and say whether it was printed. -/
  print : String → m Bool
  /-- Print to the error output, and say whether it was printed. -/
  note : String → m Bool

end ChartSchema
