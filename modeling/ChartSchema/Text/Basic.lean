/-!
# Characters and lines

The text functions every reader of this library starts from: which characters count as
blank, what is left when the blanks around a text are taken away, how a text falls into
pieces at a separator, and how it falls into lines.

They work on `List Char`, so that a reader is a recursion on its input. A last section has
the few of them that are wanted on `String` too: the text is opened, worked on and closed
again.

Two notions of "line" appear in the library and they differ on one point only. `lines`
ends a line at a line feed and drops one carriage return before it, and it has no line
after a final line feed; `splitOn` at the line feed keeps the carriage returns and does
have that last, empty piece.
-/

namespace ChartSchema.Text

/-! ## Blank characters -/

/-- The characters with the Unicode property `White_Space`. -/
def isBlank (c : Char) : Bool :=
  let n := c.toNat
  (9 ≤ n && n ≤ 13) || n == 0x20 || n == 0x85 || n == 0xA0 || n == 0x1680 ||
    (0x2000 ≤ n && n ≤ 0x200A) || n == 0x2028 || n == 0x2029 || n == 0x202F ||
    n == 0x205F || n == 0x3000

/-- The text without its leading blanks. -/
def trimStart (s : List Char) : List Char :=
  s.dropWhile isBlank

/-- The text without its trailing blanks: a blank is kept only if something follows it. -/
def trimEnd : List Char → List Char
  | [] => []
  | c :: r =>
    match trimEnd r with
    | [] => if isBlank c then [] else [c]
    | kept => c :: kept

/-- What is no blank stays, with what is left of the text behind it. -/
theorem trimEnd_cons_of_not_isBlank {c : Char} (h : isBlank c = false) (s : List Char) :
    trimEnd (c :: s) = c :: trimEnd s := by
  rw [trimEnd]
  split
  · next hs => rw [hs, h]; rfl
  · rfl

/-- The text without the blanks around it. -/
def trim (s : List Char) : List Char :=
  trimEnd (trimStart s)

/-! ## Prefixes and pieces -/

/-- What follows `lead` in a text that starts with it. -/
def after? : (lead : List Char) → List Char → Option (List Char)
  | [], s => some s
  | _ :: _, [] => none
  | p :: lead, c :: s => if p = c then after? lead s else none

/-- Whether the text starts with `lead`. -/
def startsWith (lead s : List Char) : Bool :=
  (after? lead s).isSome

/-- Whether the text ends with `tail`. -/
def endsWith (tail s : List Char) : Bool :=
  startsWith tail.reverse s.reverse

/-- The pieces between the characters that `sep` holds of: one more than there are such
characters. -/
def splitOn (sep : Char → Bool) : List Char → List (List Char)
  | [] => [[]]
  | c :: r =>
    if sep c then [] :: splitOn sep r
    else
      match splitOn sep r with
      | [] => [[c]]
      | piece :: pieces => (c :: piece) :: pieces

/-- The non-empty pieces between blanks. -/
def words (s : List Char) : List (List Char) :=
  (splitOn isBlank s).filter (!·.isEmpty)

/-- The text without one trailing carriage return. -/
def dropReturn (s : List Char) : List Char :=
  if s.getLast? = some '\r' then s.dropLast else s

/-- The lines of the pieces between line feeds: all but the last piece lose a carriage
return, and an empty last piece is no line. -/
def linesOfPieces : List (List Char) → List (List Char)
  | [] => []
  | [last] => if last.isEmpty then [] else [last]
  | piece :: pieces => dropReturn piece :: linesOfPieces pieces

/-- The lines of a text: a line ends at a line feed or at a carriage return before one, and
there is no line after a final line feed. -/
def lines (s : List Char) : List (List Char) :=
  linesOfPieces (splitOn (· == '\n') s)

/-- The number of bytes of a text in UTF-8. -/
def byteLength : List Char → Nat
  | [] => 0
  | c :: r => c.utf8Size + byteLength r

/-! ## The same on strings -/

/-- The string without the blanks around it. -/
def trimmed (s : String) : String :=
  String.ofList (trim s.toList)

/-- Whether a string holds nothing but blanks. -/
def allBlank (s : String) : Bool :=
  s.toList.all isBlank

/-- The string in ASCII lower case; other letters stay. -/
def asciiLower (s : String) : String :=
  String.ofList (s.toList.map Char.toLower)

/-- What follows `lead` in a string that starts with it. -/
def afterPrefix? (lead s : String) : Option String :=
  (after? lead.toList s.toList).map String.ofList

/-- Strings joined with a separator between them. -/
def joinWith (sep : String) : List String → String
  | [] => ""
  | [s] => s
  | s :: rest => s ++ sep ++ joinWith sep rest

/-- A number of things, in words. -/
def counted (n : Nat) (one many : String) : String :=
  toString n ++ " " ++ (if n = 1 then one else many)

/-! ## Small facts -/

@[simp] theorem splitOn_ne_nil (sep : Char → Bool) (s : List Char) : splitOn sep s ≠ [] := by
  induction s with
  | nil => simp [splitOn]
  | cons c r ih =>
    unfold splitOn
    split
    · simp
    · split <;> simp

/-- The characters of a string that is written out, without decoding it. -/
theorem toList_of_eq {s : String} {chars : List Char} (h : s = String.ofList chars) :
    s.toList = chars := by
  rw [h, String.toList_ofList]

theorem eq_append_of_after? {lead s r : List Char} (h : after? lead s = some r) :
    s = lead ++ r := by
  induction lead generalizing s with
  | nil => simpa [after?] using h
  | cons p lead ih =>
    cases s with
    | nil => simp [after?] at h
    | cons c s =>
      unfold after? at h
      split at h
      · next hpc => rw [ih h, hpc]; rfl
      · simp at h

end ChartSchema.Text
