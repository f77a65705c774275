import ChartSchema.Net.Punycode
import ChartSchema.Text.Basic
import ChartSchema.Unicode.Category
import ChartSchema.Unicode.Script
/-!
# Names of hosts in all scripts

`isInternationalHostname` holds of labels between dots whose characters may come from any
script. A label is written in ASCII for machines: as it is, or in Punycode behind `xn--`, and
has at most 63 characters then. A label that is written that way is read back first.

Some characters are not allowed, others only next to certain characters. In a name with letters
of a script that runs from right to left, every label keeps to one direction.
-/

namespace ChartSchema.Net

open Unicode

namespace Label

/-! ## Characters -/

/-- The dots between labels: the full stop and its ideographic forms. -/
def isDot (c : Char) : Bool := c == '.' || c == '\u3002' || c == '\uFF0E' || c == '\uFF61'

/-- The characters that are passed over. -/
def ignored : Ranges := Ranges.ofText
  (String.join ["AD 34F 115F-1160 17B4-17B5 180B-180F 200B 2060-2064 206A-206F 3164 FE00-FE0F ",
    "FEFF FFA0 1BCA0-1BCA3 1D173-1D17A E0100-E01EF"])

/-- Characters with a category that are not allowed, nor are they as a part of others. -/
def denied : Ranges := Ranges.ofText
  (String.join ["0-2C 2F 3A-40 5B-60 7B-A0 A8 AF B4 B8 2D8-2DD 37A 37E 384-385 600-605 61C 6DD ",
    "70F 890-891 8E2 1680 1FBD 1FBF-1FC1 1FCD-1FCF 1FDD-1FDF 1FED-1FEF 1FFD-1FFE 2000-200A ",
    "200E-200F 2017 2024-2026 2028-202F 203C 203E 2047-2049 205F 2066-2069 207A ",
    "207C-207E 208A 208C-208E 2100-2101 2105-2106 2474-24B5 2A74-2A76 2FF0-2FFF 3000 ",
    "309B-309C 31EF 3200-321E 3220-3243 33C2 33C7 33D8 FB29 FC5E-FC63 FDFA-FDFB FE10 ",
    "FE12-FE16 FE19 FE30 FE33-FE38 FE47-FE50 FE52 FE54-FE57 FE59-FE5C FE5F-FE62 ",
    "FE64-FE66 FE68-FE6B FE70 FE72 FE74 FE76 FE78 FE7A FE7C FE7E FF01-FF0C FF0F ",
    "FF1A-FF20 FF3B-FF40 FF5B-FF5E FFE3 FFF9-FFFD 110BD 110CD 13430-1343F 1F100-1F10A ",
    "1F110-1F129 E0001 E0020-E007F"])

/-- The signs that take the vowel from a consonant. -/
def viramas : Ranges := Ranges.ofText
  (String.join ["94D 9CD A4D ACD B4D BCD C4D CCD D3B-D3C D4D DCA E3A EBA F84 1039-103A 1714-1715 ",
    "1734 17D2 1A60 1B44 1BAA-1BAB 1BF2-1BF3 2D7F A806 A82C A8C4 A953 A9C0 AAF6 ABED ",
    "10A3F 11046 11070 1107F 110B9 11133-11134 111C0 11235 112EA 1134D 113CE-113D0 11442 ",
    "114C2 115BF 1163F 116B6 1172B 11839 1193D-1193E 119E0 11A34 11A47 11A99 11C3F ",
    "11D44-11D45 11D97 11F41-11F42"])

/-- Whether a label may hold a character. -/
def isAllowed (c : Char) : Bool :=
  !denied.contains c.toNat &&
    !(([.unassigned, .privateUse, .surrogate] : List GeneralCategory).contains
      (GeneralCategory.ofChar c))

/-- A character as it is compared: capital letters of ASCII are small ones, and the wide forms
of ASCII are ASCII. -/
def plainForm (c : Char) : Char :=
  let n := c.toNat
  if 0xFF01 ≤ n ∧ n ≤ 0xFF5E then (Char.ofNat (n - 0xFEE0)).toLower
  else if n = 0xFE63 then '-'
  else c.toLower

/-- Whether a character is a mark on the one before it. -/
def isMark (c : Char) : Bool := (GeneralCategory.ofGroup 'M').contains (GeneralCategory.ofChar c)

/-- Whether a character is of one of the scripts with these codes. -/
def isOf (scripts : List String) (c : Char) : Bool :=
  (Script.runs.value? c.toNat).any scripts.contains

/-! ## Neighbours -/

/-- Characters that are not allowed beside those of `denied`. -/
def isDeniedAlways (c : Char) : Bool :=
  let n := c.toNat
  n == 0x640 || n == 0x7FA || n == 0x302E || n == 0x302F || (0x3031 ≤ n && n ≤ 0x3035) ||
    n == 0x303B

/-- Whether a character may stand between `before?` and `after?`. -/
def fitsBetween (before? after? : Option Char) (c : Char) : Bool :=
  let joining := ["Arab", "Syrc", "Mong", "Nkoo", "Phag", "Mand", "Rohg", "Adlm"]
  let afterVirama := before?.any fun b => viramas.contains b.toNat
  match c.toNat with
  | 0xB7 => before? == some 'l' && after? == some 'l'
  | 0x375 => after?.any (isOf ["Grek"])
  | 0x5F3 | 0x5F4 => before?.any (isOf ["Hebr"])
  | 0x200C => afterVirama || (before?.any (isOf joining) && after?.any (isOf joining))
  | 0x200D => afterVirama
  | _ => !isDeniedAlways c

/-- Whether every character of a text fits between its neighbours. -/
def neighboursFit (before? : Option Char) : List Char → Bool
  | [] => true
  | c :: r => fitsBetween before? r.head? c && neighboursFit (some c) r

/-- Whether the characters of a label that ask for others, or exclude them, find what they ask
for: a middle dot of Katakana a letter of Japanese, and of the two rows of Arabic digits only
one. -/
def companyFits (s : List Char) : Bool :=
  let arabic := s.any fun c => 0x660 ≤ c.toNat && c.toNat ≤ 0x669
  let extended := s.any fun c => 0x6F0 ≤ c.toNat && c.toNat ≤ 0x6F9
  (!s.contains '\u30FB' || s.any (isOf ["Hira", "Kana", "Hani"])) && !(arabic && extended)

/-! ## Directions -/

/-- What a character says about the direction of a text. -/
inductive Direction where
  /-- A letter of a script from left to right. -/
  | left
  /-- A letter of a script from right to left. -/
  | right
  /-- A digit. -/
  | digit
  /-- An Arabic digit. -/
  | arabicDigit
  /-- A mark on another character. -/
  | mark
  /-- Nothing. -/
  | neutral
  deriving Repr, DecidableEq

/-- What a character says about the direction of a text. -/
def direction (c : Char) : Direction :=
  let n := c.toNat
  let category := GeneralCategory.ofChar c
  if (c.isDigit) || (0x6F0 ≤ n && n ≤ 0x6F9) then .digit
  else if (0x660 ≤ n && n ≤ 0x669) || n == 0x66B || n == 0x66C then .arabicDigit
  else if category == .nonspacingMark || category == .enclosingMark then .mark
  else if !"LMN".toList.contains (category.code.toList.headD ' ') then .neutral
  else if (0x590 ≤ n && n ≤ 0x8FF) || (0xFB1D ≤ n && n ≤ 0xFDFF) || (0xFE70 ≤ n && n ≤ 0xFEFF) ||
      (0x10800 ≤ n && n ≤ 0x10FFF) || (0x1E800 ≤ n && n ≤ 0x1EFFF) then .right
  else .left

/-- Whether a label keeps to the direction in which it starts. -/
def keepsDirection (s : List Char) : Bool :=
  let directions := s.map direction
  let last? := (directions.reverse.dropWhile (· == .mark)).head?
  match directions.head? with
  | some .right =>
    !directions.contains .left &&
      (last? == some .right || last? == some .digit || last? == some .arabicDigit) &&
      !(directions.contains .digit && directions.contains .arabicDigit)
  | some .left =>
    !directions.contains .right && !directions.contains .arabicDigit &&
      (last? == some .left || last? == some .digit)
  | _ => false

/-! ## Labels -/

/-- A label as it is meant: one in Punycode is read back, to characters that are not all in
ASCII. -/
def meant? (s : List Char) : Option (List Char) :=
  match Text.after? ['x', 'n', '-', '-'] s with
  | none => some s
  | some code =>
    match Punycode.decode? code with
    | some t =>
      if t.all (fun c => c.toNat < 128) || t.any (fun c => plainForm c != c || isDot c) ||
        Punycode.encode t != code then none
      else some t
    | none => none

/-- How many characters a label has in ASCII. -/
def width (s : List Char) : Nat :=
  if s.all fun c => c.toNat < 128 then s.length else 4 + (Punycode.encode s).length

/-- Whether a text is a label. -/
def isValid (s : List Char) : Bool :=
  !s.isEmpty && s.all isAllowed && s.head? != some '-' && s.getLast? != some '-' &&
    (s.drop 2).take 2 != ['-', '-'] && !s.head?.any isMark && neighboursFit none s &&
    companyFits s && width s ≤ 63

end Label

/-- Whether a text is the name of a host. -/
def isInternationalHostname (s : List Char) : Bool :=
  let s := s.filter fun c => !Label.ignored.contains c.toNat
  match ((Text.splitOn Label.isDot s).map (·.map Label.plainForm)).mapM Label.meant? with
  | none => false
  | some labels =>
    let directed := labels.any fun label =>
      label.any fun c => Label.direction c == .right || Label.direction c == .arabicDigit
    labels.all Label.isValid && (!directed || labels.all Label.keepsDirection) &&
      (labels.map (Label.width · + 1)).foldl (· + ·) 0 ≤ 254

end ChartSchema.Net
