import ChartSchema.Text.Basic
/-!
# Paths

A path is a text of segments with slashes between them; it starts at the root if it starts with
a slash. Paths are kept as they were written, because that is how messages show them: joining
adds a slash only where there is none, and the folder of a path is a leading part of its text.
-/

namespace ChartSchema.Path

/-- The segments of a path. An empty one stands before a leading slash and behind a trailing
one. -/
def segments (path : String) : List String :=
  (Text.splitOn (· == '/') path.toList).map String.ofList

/-- Whether a path starts at the root. -/
def isAbsolute (path : String) : Bool := Text.startsWith ['/'] path.toList

/-- The path that leads to `path` from the folder `base`. -/
def join (base path : String) : String :=
  if isAbsolute path || base.isEmpty then path
  else if Text.endsWith ['/'] base.toList then base ++ path
  else base ++ "/" ++ path

/-- Whether a segment stays where it is. -/
def isIdle (segment : String) : Bool := segment.isEmpty || segment = "."

/-- Segments without the idle ones at their end. -/
def withoutIdleEnd (segments : List String) : List String :=
  (segments.reverse.dropWhile isIdle).reverse

/-- The folder of a path: what is left when its last segment goes, nothing if it had no other.
The root and the empty path have no folder. -/
def folder? (path : String) : Option String :=
  if path.isEmpty then none
  else
    match segments path with
    | [] => none
    | first :: rest =>
      match withoutIdleEnd rest with
      | [] => if first.isEmpty then none else some ""
      | kept =>
        match withoutIdleEnd kept.dropLast with
        | [] => some (if first.isEmpty then "/" else first)
        | above => some (Text.joinWith "/" (first :: above))

end ChartSchema.Path
