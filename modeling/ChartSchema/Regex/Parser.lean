import ChartSchema.Regex.Match
import ChartSchema.Regex.Plain
import ChartSchema.Regex.Size
/-!
# Reading regular expressions

`Regex.parse?` reads a text in two steps. First the plain grammar looks at it. What keeps to it
has its letter classes narrowed to ASCII; what is beyond it stays as it is; what is wrong is no
expression. Then the text is read by the full grammar, which has look-around, references,
expressions taken as a whole and conditions. Here a brace that starts no repetition stands for
itself.

Flags hold from where they stand, and behind the end of a numbered group too.
-/

namespace ChartSchema.Regex

/-! ## Classes narrowed to ASCII -/

/-- The ASCII class that is written for a letter behind a backslash. -/
def narrowed? : Char → Option String
  | 'd' => some "[0-9]"
  | 'D' => some "[^0-9]"
  | 'w' => some "[A-Za-z0-9_]"
  | 'W' => some "[^A-Za-z0-9_]"
  | 's' => some "[ \\t\\n\\r\\v\\f\\u2003\\ufeff\\u2029\\u00a0]"
  | 'S' => some "[^ \\t\\n\\r\\v\\f\\u2003\\ufeff\\u2029\\u00a0]"
  | _ => none

/-- A text with ASCII classes for the letters behind backslashes. -/
def narrow : List Char → List Char
  | '\\' :: c :: r =>
    match narrowed? c with
    | some text => text.toList ++ narrow r
    | none => '\\' :: c :: narrow r
  | c :: r => c :: narrow r
  | [] => []

/-- The text that the full grammar reads, if there is one. A control letter is replaced by the
character that it stands for, and the text is looked at again. -/
def prepared? : (fuel : Nat) → List Char → Option (List Char)
  | 0, _ => none
  | fuel + 1, s =>
    match plain s with
    | .ok bell => if bell then none else some (narrow s)
    | .error .beyond => some s
    | .error .invalid => none
    | .error (.control (letter :: r)) =>
      if letter.isAlpha then
        prepared? fuel
          (s.take (s.length - r.length - 3) ++ Char.ofNat (letter.toNat % 32) :: r)
      else none
    | .error (.control []) => none

/-! ## Flags and names -/

/-- How an expression is read. -/
structure Flags where
  /-- Whether letters match regardless of case. -/
  ignoreCase : Bool
  /-- Whether lines have edges. -/
  multiLine : Bool
  /-- Whether a dot matches a line feed. -/
  dotAll : Bool
  /-- Whether repetitions are greedy only with a question mark. -/
  swapGreed : Bool
  /-- Whether blanks and comments count for nothing. -/
  blankless : Bool

/-- The flags with one more set, or cleared; there is none of another letter. -/
def Flags.set? (flags : Flags) (letter : Char) (value : Bool) : Option Flags :=
  match letter with
  | 'i' => some { flags with ignoreCase := value }
  | 'm' => some { flags with multiLine := value }
  | 's' => some { flags with dotAll := value }
  | 'U' => some { flags with swapGreed := value }
  | 'x' => some { flags with blankless := value }
  | 'u' => if value then some flags else none
  | _ => none

/-- What is known while a text is read. -/
structure Context where
  /-- The flags. -/
  flags : Flags
  /-- How many numbered groups were opened. -/
  groups : Nat
  /-- The numbers of the groups that have names. -/
  names : List (String × Nat)
  /-- Whether there was a reference by number alone. -/
  numbered : Bool

/-- What follows a comment, behind its start. A backslash hides the next character. -/
def afterComment? : List Char → Option (List Char)
  | [] => none
  | ')' :: r => some r
  | '\\' :: _ :: r => afterComment? r
  | _ :: r => afterComment? r

/-- A text without the comments that it starts with, and without blanks if they count for
nothing. There is none if a comment does not end. -/
def gap? (blankless : Bool) : (fuel : Nat) → List Char → Option (List Char)
  | 0, _ => none
  | fuel + 1, s =>
    match s with
    | '(' :: '?' :: '#' :: r => (afterComment? r).bind (gap? blankless fuel)
    | c :: r =>
      if blankless && [' ', '\r', '\n', '\t'].contains c then gap? blankless fuel r
      else if blankless && c == '#' then
        gap? blankless fuel ((r.dropWhile (· != '\n')).drop 1)
      else some s
    | [] => some []

/-- The text behind comments and blanks that count for nothing. -/
def Context.gap? (ctx : Context) (s : List Char) : Option (List Char) :=
  Regex.gap? ctx.flags.blankless (s.length + 1) s

/-- A name between two marks, and what follows it. -/
def nameBetween? (opening closing : List Char) (s : List Char) : Option (String × List Char) := do
  let r ← Text.after? opening s
  let isId (c : Char) : Bool := Text.isAlphanumeric c || c == '_'
  let name := r.takeWhile isId
  if name.isEmpty then none
  else
    let r ← Text.after? closing (r.dropWhile isId)
    return (String.ofList name, r)

/-- The decimal number at the start of a text, and what follows it. -/
def decimal? (s : List Char) : Option (Nat × List Char) :=
  let ds := s.takeWhile Char.isDigit
  match (if ds.isEmpty then none else (String.ofList ds).toNat?) with
  | some n => if n < 18446744073709551616 then some (n, s.dropWhile Char.isDigit) else none
  | none => none

/-- The number of the group that a name or number refers to, and what follows it. A number with a
minus sign counts back from the last group. -/
def groupBetween? (ctx : Context) (opening closing s : List Char) : Option (Nat × List Char) :=
  match nameBetween? opening closing s with
  | some (name, r) =>
    match ctx.names.lookup name with
    | some number => some (number, r)
    | none => if name.toList.all Char.isDigit then name.toNat?.map (·, r) else none
  | none => do
    let (back, r) ← decimal? (← Text.after? (opening ++ ['-']) s)
    let r ← Text.after? closing r
    if back ≤ ctx.groups + 1 then some (ctx.groups + 1 - back, r) else none

/-- The group of a number, if it was opened. -/
def opened? (ctx : Context) (number : Nat) : Option Nat :=
  if number ≤ ctx.groups then some number else none

/-! ## Escapes -/

/-- What an escape stands for in the full grammar. -/
inductive FullEscape where
  /-- One character. -/
  | char (c : Char)
  /-- A class, as it is written in the plain grammar. -/
  | named (text : List Char)
  /-- Anything else. -/
  | other (r : Regex)

/-- The digits of a hexadecimal escape, behind its letter, and what follows it: so many digits as
the letter asks for, or one to eight of them in braces. -/
def fullHex? (count : Nat) (s : List Char) : Option (Char × List Char) :=
  let isHex (c : Char) : Bool := (hexDigit? c).isSome
  let ds := s.take count
  if ds.length = count ∧ ds.all isHex then
    (charOfHex? (ds.filterMap hexDigit?)).map (·, s.drop count)
  else
    match s with
    | '\x7b' :: r =>
      let ds := r.takeWhile isHex
      match r.dropWhile isHex with
      | '\x7d' :: r =>
        if ds.isEmpty ∨ 8 < ds.length then none
        else (charOfHex? (ds.filterMap hexDigit?)).map (·, r)
      | _ => none
    | _ => none

/-- The text of a property escape, behind its letter, and what follows it. -/
def propertyText? (letter : Char) : List Char → Option (List Char × List Char)
  | '\x7b' :: r =>
    let name := r.takeWhile (· != '\x7d')
    match r.dropWhile (· != '\x7d') with
    | '\x7d' :: r => some ('\\' :: letter :: '\x7b' :: name ++ ['\x7d'], r)
    | _ => none
  | c :: r => some (['\\', letter, c], r)
  | [] => none

/-- The character of a letter that stands for a control character. -/
def controlLetter? : Char → Option Char
  | 'a' => some '\x07'
  | 'e' => some '\x1b'
  | 'f' => some '\x0c'
  | 'n' => some '\n'
  | 'r' => some '\r'
  | 't' => some '\t'
  | 'v' => some '\x0b'
  | _ => none

/-- What an escape stands for that does so only outside of classes. -/
def placeEscape? (c : Char) (r : List Char) : Option Regex :=
  if r.head? = some '\x7b' ∧ (c = 'b' ∨ c = 'B') then none
  else
    match c with
    | 'A' => some (.place .textStart)
    | 'z' => some (.place .textEnd)
    | 'b' => some (.place .wordEdge)
    | 'B' => some (.place .noWordEdge)
    | '<' => some (.place .wordStart)
    | '>' => some (.place .wordEnd)
    | 'K' => some (.whole .empty)
    | 'G' => some (.whole (.place .textStart))
    | _ => none

/-- What an escape stands for, behind the backslash. `limit` bounds the numbers of references. -/
def fullEscape? (limit : Nat) (inClass : Bool) (ctx : Context) : List Char →
    Option (FullEscape × Context × List Char)
  | [] => none
  | c :: r =>
    if c.isDigit then do
      let (number, r) ← decimal? (c :: r)
      if number < limit then
        let number ← opened? ctx number
        return (.other (.reference number), { ctx with numbered := true }, r)
      else none
    else if c = 'k' ∧ !inClass then do
      let (number, r) ←
        if r.head? = some '\'' then groupBetween? ctx ['\''] ['\''] r
        else groupBetween? ctx ['<'] ['>'] r
      let number ← opened? ctx number
      return (.other (.reference number), ctx, r)
    else if !inClass ∧ ['A', 'z', 'b', 'B', '<', '>', 'K', 'G'].contains c then
      (placeEscape? c r).map fun regex => (.other regex, ctx, r)
    else if ['d', 'D', 's', 'S', 'w', 'W'].contains c then some (.named ['\\', c], ctx, r)
    else
      match c with
      | 'h' => some (.named "[0-9A-Fa-f]".toList, ctx, r)
      | 'H' => some (.named "[^0-9A-Fa-f]".toList, ctx, r)
      | 'x' => (fullHex? 2 r).map fun (c, r) => (.char c, ctx, r)
      | 'u' => (fullHex? 4 r).map fun (c, r) => (.char c, ctx, r)
      | 'U' => (fullHex? 8 r).map fun (c, r) => (.char c, ctx, r)
      | c =>
        if c = 'p' ∨ c = 'P' then
          (propertyText? c r).map fun (text, r) => (.named text, ctx, r)
        else if c = 'b' then some (.char '\x08', ctx, r)
        else
          match controlLetter? c with
          | some d => some (.char d, ctx, r)
          | none =>
            if c.isAlpha && !"kAzBKG".toList.contains c then none
            else some (.char c, ctx, r)

/-- The set of a class as it is written in the plain grammar. -/
def writtenSet? (ignoreCase : Bool) : List Char → Option CharSet
  | '[' :: r =>
    match bracketClass false r with
    | .ok (inner, []) => inner.set? ignoreCase
    | _ => none
  | '\\' :: r =>
    match escape false r with
    | .ok (.named name, []) => name.set? ignoreCase
    | _ => none
  | _ => none

/-- A character as it is written in a class. -/
def classChar (c : Char) : List Char :=
  if "\\.+*?()|[]\x7b\x7d^$#&-~".toList.contains c then ['\\', c] else [c]

/-- The text of a class up to the closing bracket of the outermost one, in the plain grammar, and
what follows it. `depth` is the number of brackets that are open. -/
def classText? (limit : Nat) (ctx : Context) : (fuel depth : Nat) → List Char →
    Option (List Char × List Char)
  | 0, _, _ => none
  | fuel + 1, depth, s =>
    match s with
    | [] => none
    | '\\' :: r => do
      let (what, _, r) ← fullEscape? limit true ctx r
      let text ← match what with
        | .char c => some (classChar c)
        | .named text => some text
        | .other _ => none
      let (more, r) ← classText? limit ctx fuel depth r
      return (text ++ more, r)
    | '[' :: r => (classText? limit ctx fuel (depth + 1) r).map fun (text, r) => ('[' :: text, r)
    | ']' :: r =>
      if depth = 1 then some ([']'], r)
      else (classText? limit ctx fuel (depth - 1) r).map fun (text, r) => (']' :: text, r)
    | c :: r => (classText? limit ctx fuel depth r).map fun (text, r) => (c :: text, r)

/-- The set of a class in brackets, behind the opening one, and what follows it. -/
def fullClass? (limit : Nat) (ctx : Context) (s : List Char) : Option (CharSet × List Char) := do
  let (lead, r) := match s with
    | '^' :: ']' :: r => (['[', '^', ']'], r)
    | '^' :: r => (['[', '^'], r)
    | ']' :: r => (['[', ']'], r)
    | r => (['['], r)
  let (text, r) ← classText? limit ctx (r.length + 1) 1 r
  return (← writtenSet? ctx.flags.ignoreCase (lead ++ text), r)

/-! ## Repetitions -/

/-- The counts of a repetition in braces, behind the opening one, and what follows it. -/
def counts? (ctx : Context) (s : List Char) : Option (Nat × Option Nat × List Char) := do
  let r ← ctx.gap? s
  let (least, r) ← match r with
    | ',' :: _ => some (0, r)
    | r => decimal? r
  let r ← ctx.gap? r
  let (most?, r) ← match r with
    | '\x7d' :: _ => some (some least, r)
    | ',' :: r => do
      let r ← ctx.gap? r
      match decimal? r with
      | some (most, r) => some (some most, r)
      | none => some (none, r)
    | _ => none
  let r ← Text.after? ['\x7d'] (← ctx.gap? r)
  return (least, most?, r)

/-- Whether an expression can be repeated: one that only looks at a place cannot. -/
def isRepeatable (r : Regex) : Bool :=
  match r.bare with
  | .empty | .place _ | .ahead .. | .behind .. => false
  | _ => true

/-- An expression with the repetition that is written behind it, and what follows that. A plus
sign behind the repetition takes it as a whole. -/
def withRepetition? (ctx : Context) (r : Regex) (s : List Char) : Option (Regex × List Char) := do
  let s ← ctx.gap? s
  let counts : Option (Nat × Option Nat × List Char) := match s with
    | '*' :: rest => some (0, none, rest)
    | '+' :: rest => some (1, none, rest)
    | '?' :: rest => some (0, some 1, rest)
    | '\x7b' :: rest => counts? ctx rest
    | _ => none
  match counts with
  | none => some (r, s)
  | some (least, most?, rest) =>
    if !isRepeatable r then none
    else
      let rest ← ctx.gap? rest
      let (lazy, rest) := match rest with
        | '?' :: rest => (true, rest)
        | rest => (false, rest)
      let repeated := .repeated r least most? (lazy == ctx.flags.swapGreed)
      match rest with
      | '+' :: rest => some (.whole repeated, rest)
      | rest => some (repeated, rest)

/-! ## Expressions -/

/-- The deepest nesting of groups. -/
def maxDepth : Nat := 64

/-- Some expressions one after another. -/
def sequence : List Regex → Regex
  | [] => .empty
  | [r] => r
  | r :: rs => .seq r (sequence rs)

/-- The flags that are written behind a question mark: the flags, whether a colon follows, and
what follows that. `last?` is the character before, and `negated` says that a hyphen was read. -/
def flags? (ctx : Context) (negated : Bool) (last? : Option Char) : (fuel : Nat) → List Char →
    Option (Context × Bool × List Char)
  | 0, _ => none
  | fuel + 1, s => do
    match ← ctx.gap? s with
    | [] => none
    | ')' :: r => if last?.isNone || last? == some '-' then none else some (ctx, false, r)
    | ':' :: r => if last? = some '-' then none else some (ctx, true, r)
    | '-' :: r => if negated then none else flags? ctx true (some '-') fuel r
    | c :: r =>
      let flags ← ctx.flags.set? c (!negated)
      flags? { ctx with flags := flags } negated (some c) fuel r

/-- What follows a closing parenthesis. -/
def closed? (ctx : Context) (s : List Char) : Option (List Char) := do
  Text.after? [')'] (← ctx.gap? s)

mutual

/-- Alternatives up to a closing parenthesis or the end. -/
def choices? (limit : Nat) : (fuel depth : Nat) → Context → List Char →
    Option (Regex × Context × List Char)
  | 0, _, _, _ => none
  | fuel + 1, depth, ctx, s => do
    let (first, ctx, r) ← branch? limit fuel depth ctx s
    match ← ctx.gap? r with
    | '|' :: r =>
      let (others, ctx, r) ← moreChoices? limit fuel depth ctx r
      return (.alt first others, ctx, r)
    | r => if ctx.numbered && !ctx.names.isEmpty then none else return (first, ctx, r)

/-- The alternatives behind a bar. -/
def moreChoices? (limit : Nat) : (fuel depth : Nat) → Context → List Char →
    Option (Regex × Context × List Char)
  | 0, _, _, _ => none
  | fuel + 1, depth, ctx, s => do
    let (first, ctx, r) ← branch? limit fuel depth ctx s
    match ← ctx.gap? r with
    | '|' :: r =>
      let (others, ctx, r) ← moreChoices? limit fuel depth ctx r
      return (.alt first others, ctx, r)
    | r => return (first, ctx, r)

/-- One alternative. -/
def branch? (limit : Nat) : (fuel depth : Nat) → Context → List Char →
    Option (Regex × Context × List Char)
  | 0, _, _, _ => none
  | fuel + 1, depth, ctx, s => do
    let (pieces, ctx, r) ← pieces? limit fuel depth ctx s
    return (sequence pieces, ctx, r)

/-- The pieces of an alternative, without those that match the empty text only. -/
def pieces? (limit : Nat) : (fuel depth : Nat) → Context → List Char →
    Option (List Regex × Context × List Char)
  | 0, _, _, _ => none
  | fuel + 1, depth, ctx, s => do
    match s with
    | [] => some ([], ctx, [])
    | s =>
      let (piece, ctx, r) ← atom? limit fuel depth ctx s
      let (piece, r) ← withRepetition? ctx piece r
      if r.length = s.length then some ([], ctx, r)
      else
        let (others, ctx, r) ← pieces? limit fuel depth ctx r
        match piece.bare with
        | .empty => return (others, ctx, r)
        | _ => return (piece :: others, ctx, r)

/-- One character, class, place or group. -/
def atom? (limit : Nat) : (fuel depth : Nat) → Context → List Char →
    Option (Regex × Context × List Char)
  | 0, _, _, _ => none
  | fuel + 1, depth, ctx, s => do
    let flags := ctx.flags
    let literal (c : Char) : Regex := .char ((CharSet.single c).anyCaseIf flags.ignoreCase)
    match ← ctx.gap? s with
    | [] => some (.empty, ctx, [])
    | '.' :: r => some (.char (if flags.dotAll then .all else .dot), ctx, r)
    | '^' :: r => some (.place (if flags.multiLine then .lineStart else .textStart), ctx, r)
    | '$' :: r => some (.place (if flags.multiLine then .lineEnd else .textEnd), ctx, r)
    | '(' :: r => if depth + 1 < maxDepth then group? limit fuel (depth + 1) ctx r else none
    | '[' :: r => (fullClass? limit ctx r).map fun (set, r) => (.char set, ctx, r)
    | '\\' :: r =>
      let (what, ctx, r) ← fullEscape? limit false ctx r
      match what with
      | .char c => some (literal c, ctx, r)
      | .named text => (writtenSet? flags.ignoreCase text).map fun set => (.char set, ctx, r)
      | .other regex => some (regex, ctx, r)
    | c :: r =>
      if ['+', '*', '?', '|', ')'].contains c then some (.empty, ctx, c :: r)
      else some (literal c, ctx, r)

/-- What stands in parentheses, behind the opening one. -/
def group? (limit : Nat) : (fuel depth : Nat) → Context → List Char →
    Option (Regex × Context × List Char)
  | 0, _, _, _ => none
  | fuel + 1, depth, ctx, s => do
    let around (make : Regex → Regex) (ctx : Context) (r : List Char) :
        Option (Regex × Context × List Char) := do
      let (inner, ctx, r) ← choices? limit fuel depth ctx r
      return (make inner, ctx, ← closed? ctx r)
    let numbered (name? : Option String) (r : List Char) : Option (Regex × Context × List Char) :=
      let number := ctx.groups + 1
      let names := match name? with
        | some name => (name, number) :: ctx.names
        | none => ctx.names
      around (.group (some number)) { ctx with groups := number, names := names } r
    match ← ctx.gap? s with
    | '?' :: '=' :: r => around (.ahead true) ctx r
    | '?' :: '!' :: r => around (.ahead false) ctx r
    | '?' :: '<' :: '=' :: r => around (.behind true) ctx r
    | '?' :: '<' :: '!' :: r => around (.behind false) ctx r
    | '?' :: '>' :: r => around .whole ctx r
    | '?' :: '<' :: r =>
      let (name, r) ← nameBetween? ['<'] ['>'] ('<' :: r)
      numbered (some name) r
    | '?' :: '\'' :: r =>
      let (name, r) ← nameBetween? ['\''] ['\''] ('\'' :: r)
      numbered (some name) r
    | '?' :: 'P' :: '<' :: r =>
      let (name, r) ← nameBetween? ['<'] ['>'] ('<' :: r)
      numbered (some name) r
    | '?' :: 'P' :: '=' :: r =>
      let (number, r) ← groupBetween? ctx [] [')'] r
      return (.reference (← opened? ctx number), ctx, r)
    | '?' :: '(' :: r => conditional? limit fuel depth ctx r
    | '?' :: r =>
      let (inside, colon, r) ← flags? ctx false none (r.length + 1) r
      if colon then
        let (inner, after, r) ← choices? limit fuel depth inside r
        return (.group none inner, { after with flags := ctx.flags }, ← Text.after? [')'] r)
      else return (.empty, inside, r)
    | r => numbered none r

/-- A condition and its branches, behind the opening parenthesis of the condition. A group as
condition asks whether the group was reached. -/
def conditional? (limit : Nat) : (fuel depth : Nat) → Context → List Char →
    Option (Regex × Context × List Char)
  | 0, _, _, _ => none
  | fuel + 1, depth, ctx, s => do
    let byGroup? : Option (Option (Nat × List Char)) := match s with
      | '<' :: _ => some (groupBetween? ctx ['<'] ['>', ')'] s)
      | '\'' :: _ => some (groupBetween? ctx ['\''] ['\'', ')'] s)
      | c :: _ => if c.isDigit then some (groupBetween? ctx [] [')'] s) else none
      | [] => none
    let (condition, ctx, r) ← match byGroup? with
      | some group? => do
        let (number, r) ← group?
        some (Regex.reached (← opened? ctx number), ctx, r)
      | none => do
        let (condition, ctx, r) ← choices? limit fuel depth ctx s
        let condition := match condition.bare with
          | .reference number => .reached number
          | _ => condition
        some (condition, ctx, ← closed? ctx r)
    let (branches, ctx, r') ← choices? limit fuel depth ctx r
    let after ← closed? ctx r'
    if r'.length = r.length then
      match condition with
      | .reached _ => return (condition, ctx, after)
      | _ => none
    else
      let (yes, no) := match branches with
        | .alt a b => (a, b)
        | r => (r, .empty)
      match yes.bare, no.bare with
      | .empty, .empty => return (condition, ctx, after)
      | _, _ => return (.provided condition yes no, ctx, after)

end

/-- Whether an expression can be used: as `isUsable` says and, as long as nothing in it is hard,
with its counts in order. Its machines must not be too large. -/
def isSound (r : Regex) : Bool :=
  let numbers := r.referred
  r.isUsable numbers && r.hasCompactParts numbers &&
    (r.isHard numbers || (!r.hasInvertedCount && r.isCompact))

/-- The expression that a text writes in the full grammar. Few calls lie between two characters
that are read, so the fuel is enough for every text. -/
def full? (s : List Char) : Option Regex :=
  let flags : Flags := ⟨false, false, false, false, false⟩
  match choices? (Text.byteLength s / 2) (8 * s.length + 8) 0 ⟨flags, 0, [], false⟩ s with
  | some (r, _, []) => if r.spread.isSound then some r.spread else none
  | _ => none

/-- The expression that a text writes. -/
def parse? (text : String) : Option Regex :=
  (prepared? (text.length + 1) text.toList).bind full?

end ChartSchema.Regex
