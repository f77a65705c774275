import ChartSchema.Files.Host
import ChartSchema.Files.Path
/-!
# Disks

A disk holds files and folders at places; a place is the list of names that lead to it from the
root. Finding a path walks from folder to folder: every segment but the last has to be one, and
the last may be a folder, a file or nothing yet. A file holds bytes, which need not be a text.

Reading changes nothing. Writing changes the bytes at one place, and making a folder adds folders
only. Both take several steps, one for each folder, and for a file one to make or empty it and one
for each byte. A full disk or a broken one stops such a change between two of its steps
(`Disk.Mishap`), and then what was done stays: nothing takes it back.
-/

namespace ChartSchema

/-- The names that lead from the root to a file or a folder. -/
abbrev Disk.Place := List String

/-- The files and folders of a machine. -/
structure Disk where
  /-- The bytes of files, each place once. -/
  files : List (Disk.Place × ByteArray)
  /-- The folders but for the root. -/
  folders : List Disk.Place
  /-- The folder in which relative paths start. -/
  here : Disk.Place

namespace Disk

/-- The bytes of the file at a place. -/
def bytes? (disk : Disk) (place : Place) : Option ByteArray :=
  (disk.files.find? (·.1 == place)).map (·.2)

/-- Whether there is a folder at a place. -/
def isFolder (disk : Disk) (place : Place) : Bool := place.isEmpty || disk.folders.contains place

/-- The disk with other bytes at a place. -/
def put (disk : Disk) (place : Place) (bytes : ByteArray) : Disk :=
  { disk with files := (place, bytes) :: disk.files.filter (·.1 != place) }

/-- What a path leads to. -/
inductive Target where
  /-- A folder. -/
  | folder (place : Place)
  /-- A file with its bytes. -/
  | file (place : Place) (bytes : ByteArray)
  /-- A name that nothing in its folder has. -/
  | free (place : Place)

/-- What a segment leads to from a folder. -/
def step (disk : Disk) (place : Place) (segment : String) : Except FileFault Target :=
  if Path.isIdle segment then .ok (.folder place)
  else if segment = ".." then .ok (.folder place.dropLast)
  else if 255 < segment.utf8ByteSize then .error .nameTooLong
  else
    let next := place ++ [segment]
    if disk.isFolder next then .ok (.folder next)
    else
      match disk.bytes? next with
      | some bytes => .ok (.file next bytes)
      | none => .ok (.free next)

/-- Walk along segments from a folder. -/
def walk (disk : Disk) (place : Place) : List String → Except FileFault Target
  | [] => .ok (.folder place)
  | [last] => disk.step place last
  | segment :: rest => do
    match ← disk.step place segment with
    | .folder next => disk.walk next rest
    | .file .. => throw .notDirectory
    | .free _ => throw .notFound

/-- The folder in which a path starts. -/
def start (disk : Disk) (path : String) : Place := if Path.isAbsolute path then [] else disk.here

/-- What a path leads to. -/
def find (disk : Disk) (path : String) : Except FileFault Target :=
  if path.toList.contains '\x00' then .error .unnameable
  else if path.isEmpty then .error .notFound
  else disk.walk (disk.start path) (Path.segments path)

/-- The text of a file. -/
def read (disk : Disk) (path : String) : Except FileFault String := do
  match ← disk.find path with
  | .file _ bytes =>
    match String.fromUTF8? bytes with
    | some text => return text
    | none => throw .notText
  | .folder _ => throw .isDirectory
  | .free _ => throw .notFound

/-- Whether a path leads to something. -/
def present (disk : Disk) (path : String) : Bool :=
  match disk.find path with
  | .ok (.file ..) | .ok (.folder _) => true
  | _ => false

/-! ## Changes -/

/-- What stops a change of a disk before it is done: there is no room left, say, or no permission,
or the disk is broken. -/
structure Mishap where
  /-- How many steps of the change were done by then. -/
  after : Nat
  /-- Why there were no more, in words. -/
  reason : String
  deriving Repr

/-- The place of the file that a path names for writing. A path that ends with a slash names no
file. -/
def writable (disk : Disk) (path : String) : Except FileFault Place := do
  if Text.endsWith ['/'] path.toList && !path.toList.contains '\x00' then
    let named := ((Path.segments path).reverse.dropWhile (·.isEmpty)).reverse
    let _ ← disk.walk (disk.start path) (named.dropLast ++ [""])
    throw .isDirectory
  match ← disk.find path with
  | .file place _ | .free place => return place
  | .folder _ => throw .isDirectory

/-- The first bytes of a text. -/
def beginning (text : String) (written : Nat) : ByteArray := text.toUTF8.extract 0 written

/-- Give a file a text. The first step makes the file or empties it, and each further one writes a
byte; where that is stopped, the file is left with the bytes that were written. -/
def write (disk : Disk) (mishap? : Option Mishap) (path text : String) :
    Except FileFault Unit × Disk :=
  match disk.writable path with
  | .error fault => (.error fault, disk)
  | .ok place =>
    match mishap? with
    | some ⟨0, reason⟩ => (.error (.other reason), disk)
    | some ⟨written + 1, reason⟩ =>
      if written < text.utf8ByteSize then
        (.error (.other reason), disk.put place (beginning text written))
      else (.ok (), disk.put place text.toUTF8)
    | none => (.ok (), disk.put place text.toUTF8)

/-- Make the folders along segments, those that are not there yet, where so many were made before.
A file in their way is found to be none as soon as one was made; before, it is only known that the
path goes on behind it. -/
def makeAlong (disk : Disk) (mishap? : Option Mishap) (made : Nat) (place : Place) :
    List String → Except FileFault Unit × Disk
  | [] => (.ok (), disk)
  | segment :: rest =>
    match disk.step place segment with
    | .error fault => (.error fault, disk)
    | .ok (.folder next) => disk.makeAlong mishap? made next rest
    | .ok (.file ..) =>
      (.error (if rest.isEmpty || 0 < made then .exists else .notDirectory), disk)
    | .ok (.free next) =>
      match mishap?.filter (·.after ≤ made) with
      | some mishap => (.error (.other mishap.reason), disk)
      | none =>
        let grown : Disk := { disk with folders := next :: disk.folders }
        grown.makeAlong mishap? (made + 1) next rest

/-- Make a folder and those it lies in. -/
def makeFolder (disk : Disk) (mishap? : Option Mishap) (path : String) :
    Except FileFault Unit × Disk :=
  if path.toList.contains '\x00' then (.error .unnameable, disk)
  else disk.makeAlong mishap? 0 (disk.start path) (Path.segments path)

/-! ## Disks of files -/

/-- The name of what a path leads to. -/
def properName? (disk : Disk) (path : String) : Option String :=
  match disk.find path with
  | .ok (.file place _) | .ok (.folder place) => place.getLast?
  | _ => none

/-- A place and the places above it, without the root. -/
def withAbove : Place → List Place
  | [] => []
  | name :: rest => [name] :: (withAbove rest).map (name :: ·)

/-- A disk with files in and below one folder, in which relative paths start. -/
def ofFiles (here : Place) (files : List (String × String)) : Disk :=
  let placed := files.map fun (path, text) =>
    (here ++ (Path.segments path).filter (!Path.isIdle ·), text.toUTF8)
  { files := placed, here
    folders := withAbove here ++ placed.flatMap fun (place, _) => withAbove place.dropLast }

/-- The texts below the folder in which relative paths start that another disk does not have there,
by their paths from that folder. -/
def changedSince (disk old : Disk) : List (String × String) :=
  disk.files.filterMap fun (place, bytes) =>
    if disk.here.isPrefixOf place && old.bytes? place != some bytes then
      (String.fromUTF8? bytes).map (Text.joinWith "/" (place.drop disk.here.length), ·)
    else none

end Disk

/-- A disk, what will befall its changes, what was printed, and what will not be. -/
structure Session where
  /-- The disk. -/
  disk : Disk
  /-- What will befall the changes of the disk, one after the other; those behind are safe. -/
  mishaps : List (Option Disk.Mishap) := []
  /-- Whether what is printed is lost, text by text; those behind are printed. -/
  losses : List Bool := []
  /-- What was printed to the output. -/
  output : String := ""
  /-- What was printed to the error output. -/
  notes : String := ""

namespace Session

/-- Change the disk, as far as what befalls this change allows it. -/
def change (step : Disk → Option Disk.Mishap → Except FileFault Unit × Disk) :
    StateM Session (Except FileFault Unit) := fun session =>
  let (result, disk) := step session.disk session.mishaps.head?.join
  (result, { session with disk, mishaps := session.mishaps.tail })

/-- Print a text, unless it is lost. -/
def say (printed : Session → Session) : StateM Session Bool := fun session =>
  let later := { session with losses := session.losses.tail }
  if session.losses.head?.getD false then (false, later) else (true, printed later)

instance : Host (StateM Session) where
  read path := return (← get).disk.read path
  present path := return (← get).disk.present path
  write path text := change (·.write · path text)
  makeFolder path := change (·.makeFolder · path)
  properName? path := return (← get).disk.properName? path
  print text := say fun session => { session with output := session.output ++ text }
  note text := say fun session => { session with notes := session.notes ++ text }

end Session
end ChartSchema
