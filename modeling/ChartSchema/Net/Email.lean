import ChartSchema.Net.Address
/-!
# Addresses of electronic mail

An address is a local part and a domain with `@` between them; a name may stand before it, and
then it stands between `<` and `>`. A local part is written in words with dots between them, or
in quotes. A domain is the name of a host, or the address of one in square brackets.

Which names are names of hosts is left to a predicate, for names beyond ASCII follow other rules.
-/

namespace ChartSchema.Net

/-- What stands before and after the last character that `sep` holds of. -/
def splitAtLast (sep : Char → Bool) : List Char → Option (List Char × List Char)
  | [] => none
  | c :: r =>
    match splitAtLast sep r with
    | some (before, after) => some (c :: before, after)
    | none => if sep c then some ([], r) else none

/-- What stands after the last ` <` of a text. -/
def afterLastAngle : List Char → Option (List Char)
  | [] => none
  | c :: r =>
    match afterLastAngle r with
    | some after => some after
    | none => if c = ' ' then Text.after? ['<'] r else none

namespace Email

/-- Whether a character may stand in a word of an address: all those beyond ASCII may. -/
def isWordChar (c : Char) : Bool :=
  c.isAlphanum || 0x80 ≤ c.toNat || "!#$%&'*+-/=?^_\x60\x7b|\x7d~".toList.contains c

/-- Whether a text is a word. -/
def isWord (s : List Char) : Bool := !s.isEmpty && s.all isWordChar

/-- Whether a text may stand between quotes: after a backslash any visible character of ASCII
may, elsewhere all but the quote and control characters. -/
def isQuotable : List Char → Bool
  | [] => true
  | '\\' :: c :: r => '!' ≤ c && c ≤ '~' && isQuotable r
  | c :: r =>
    (c == '\t' || c == ' ' || ('!' ≤ c && c ≤ '~' && c != '"' && c != '\\') || 0x80 ≤ c.toNat)
      && isQuotable r

/-- What stands between two marks at the ends of a text. -/
def between? (first last : Char) (s : List Char) : Option (List Char) :=
  if s.head? == some first && s.getLast? == some last then some s.tail.dropLast else none

/-- Whether a text is a local part. -/
def isLocalPart (s : List Char) : Bool :=
  !s.isEmpty && Text.byteLength s ≤ 64 &&
    match between? '"' '"' s with
    | some quoted => !quoted.isEmpty && isQuotable quoted
    | none => (Text.splitOn (· == '.') s).all isWord

/-- Whether a text is a domain. -/
def isDomain (isHost : List Char → Bool) (s : List Char) : Bool :=
  !s.isEmpty && Text.byteLength s ≤ 254 &&
    match between? '[' ']' s with
    | some address =>
      match Text.after? "IPv6:".toList address with
      | some address => isIpv6 address
      | none => isIpv4 address
    | none =>
      ((Text.splitOn (· == '.') s).all fun label => isWord label && Text.byteLength label ≤ 63)
        && isHost s

end Email

/-- The address in a text that may have a name before it. -/
def bareAddress? (s : List Char) : Option (List Char) :=
  match afterLastAngle s with
  | some after =>
    let after := Text.trim after
    if after.getLast? = some '>' then some after.dropLast else none
  | none => some s

/-- Whether a text is an address of electronic mail whose domain is the name of a host. -/
def isEmail (isHost : List Char → Bool) (s : List Char) : Bool :=
  match (bareAddress? s).bind (splitAtLast (· == '@')) with
  | some (localPart, domain) => Email.isLocalPart localPart && Email.isDomain isHost domain
  | none => false

end ChartSchema.Net
