import ChartSchema.Text.Basic
/-!
# Addresses and names of hosts

`isIpv4` holds of four numbers up to 255 between dots, written without needless zeros, `isIpv6`
of eight groups of up to four hexadecimal digits between colons. Two colons stand for a row of
zero groups, at least one, and may come once. The last two groups may be written as four
numbers between dots.

`isHostname` holds of labels between dots: of letters, digits and inner hyphens of ASCII.
-/

namespace ChartSchema.Net

/-- Whether a character is a hexadecimal digit. -/
def isHexDigit (c : Char) : Bool :=
  c.isDigit || ('a' ≤ c && c ≤ 'f') || ('A' ≤ c && c ≤ 'F')

/-- Whether a text is a number up to 255. -/
def isOctet (s : List Char) : Bool :=
  1 ≤ s.length && s.length ≤ 3 && s.all Char.isDigit && (s.length == 1 || s.head? != some '0')
    && s.foldl (fun n c => n * 10 + (c.toNat - '0'.toNat)) 0 ≤ 255

/-- Whether a text is an address of 32 bits. -/
def isIpv4 (s : List Char) : Bool :=
  let octets := Text.splitOn (· == '.') s
  octets.length == 4 && octets.all isOctet

/-- The pieces of a text between colons; an empty text has none. -/
def colonPieces (s : List Char) : List (List Char) :=
  if s.isEmpty then [] else Text.splitOn (· == ':') s

/-- How many groups the pieces of an address write. `dotted` says whether the last of them may be
four numbers between dots, which count for two groups. -/
def groupCount? (dotted : Bool) : List (List Char) → Option Nat
  | [] => some 0
  | piece :: rest =>
    if 1 ≤ piece.length && piece.length ≤ 4 && piece.all isHexDigit then
      (groupCount? dotted rest).map (· + 1)
    else if dotted && rest.isEmpty && isIpv4 piece then some 2
    else none

/-- What stands before and after the first two colons next to each other. -/
def splitAtDoubleColon : List Char → Option (List Char × List Char)
  | [] => none
  | ':' :: ':' :: r => some ([], r)
  | c :: r => (splitAtDoubleColon r).map fun (before, after) => (c :: before, after)

/-- Whether a text is an address of 128 bits. -/
def isIpv6 (s : List Char) : Bool :=
  match splitAtDoubleColon s with
  | none => groupCount? true (colonPieces s) == some 8
  | some (before, after) =>
    match groupCount? false (colonPieces before), groupCount? true (colonPieces after) with
    | some m, some n => m + n ≤ 7
    | _, _ => false

/-- Whether a text is a label of a name. -/
def isLabel (s : List Char) : Bool :=
  1 ≤ s.length && s.length ≤ 63 && s.all (fun c => c.isAlphanum || c == '-')
    && s.head? != some '-' && s.getLast? != some '-'

/-- Whether a text is the name of a host. -/
def isHostname (s : List Char) : Bool :=
  s.length ≤ 253 && (Text.splitOn (· == '.') s).all isLabel

end ChartSchema.Net
