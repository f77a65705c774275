import ChartSchema.Net.Address
/-!
# References to resources

A `Uri` is a reference by its parts: scheme, authority, path, query and fragment. A reference
without a scheme is relative, and `Uri.resolve` says what it refers to where it is read.

`Uri.parse?` accepts exactly the references of the standard; for references beyond ASCII letters
of other scripts may stand wherever an unreserved character may.
-/

namespace ChartSchema.Net

/-- The parts of a reference, without the marks between them. -/
structure Uri where
  /-- What stands before the first colon, `http` for instance. -/
  scheme? : Option (List Char) := none
  /-- What stands between two slashes and the path. -/
  authority? : Option (List Char) := none
  /-- The path. -/
  path : List Char := []
  /-- What stands behind a question mark. -/
  query? : Option (List Char) := none
  /-- What stands behind a number sign. -/
  fragment? : Option (List Char) := none
  deriving Repr, DecidableEq

namespace Uri

/-! ## Characters -/

/-- The characters that are never escaped. -/
def isUnreserved (c : Char) : Bool :=
  c.isAlphanum || c == '-' || c == '.' || c == '_' || c == '~'

/-- The characters that may separate the pieces of a part. -/
def isDelimiter (c : Char) : Bool := "!$&'()*+,;=".toList.contains c

/-- The characters beyond ASCII that may stand for themselves where those are allowed. -/
def isInternational (c : Char) : Bool :=
  let n := c.toNat
  (0xA0 ≤ n && n ≤ 0xD7FF) || (0xF900 ≤ n && n ≤ 0xFDCF) || (0xFDF0 ≤ n && n ≤ 0xFFEF)
    || (0x10000 ≤ n && n ≤ 0xEFFFD && n % 0x10000 ≤ 0xFFFD && !(0xE0000 ≤ n && n ≤ 0xE0FFF))

/-- The characters for private use, which a query may hold. -/
def isPrivate (c : Char) : Bool :=
  let n := c.toNat
  (0xE000 ≤ n && n ≤ 0xF8FF) || (0xF0000 ≤ n && n % 0x10000 ≤ 0xFFFD)

/-- Whether a text consists of characters that `ok` holds of and of escapes. -/
def allEscapedOr (ok : Char → Bool) : List Char → Bool
  | [] => true
  | '%' :: a :: b :: r => isHexDigit a && isHexDigit b && allEscapedOr ok r
  | c :: r => ok c && allEscapedOr ok r

/-! ## Parts -/

/-- Which characters a reference may hold. -/
inductive Charset where
  /-- ASCII. -/
  | ascii
  /-- ASCII and characters of other scripts. -/
  | international
  deriving Repr, DecidableEq

/-- The characters of a name. -/
def Charset.isName (charset : Charset) (c : Char) : Bool :=
  isUnreserved c || isDelimiter c || (charset == .international && isInternational c)

/-- The characters of a segment of a path. -/
def Charset.isSegment (charset : Charset) (c : Char) : Bool :=
  charset.isName c || c == ':' || c == '@'

/-- Whether a text is a scheme. -/
def isScheme : List Char → Bool
  | [] => false
  | c :: r => c.isAlpha && r.all fun c => c.isAlphanum || c == '+' || c == '-' || c == '.'

/-- What stands before the first character that `sep` holds of, and what behind it, if there is
one. -/
def cut (sep : Char → Bool) (s : List Char) : List Char × Option (List Char) :=
  match s.dropWhile (!sep ·) with
  | [] => (s, none)
  | _ :: r => (s.takeWhile (!sep ·), some r)

/-- Whether a text between square brackets is an address. -/
def isBracketed (s : List Char) : Bool :=
  isIpv6 s ||
    match s with
    | v :: r =>
      match cut (· == '.') r with
      | (version, some address) =>
        (v == 'v' || v == 'V') && !version.isEmpty && version.all isHexDigit && !address.isEmpty
          && address.all fun c => isUnreserved c || isDelimiter c || c == ':'
      | _ => false
    | [] => false

/-- Whether a text is a port, with the colon before it, or nothing. -/
def isPort : List Char → Bool
  | [] => true
  | c :: r => c == ':' && r.all Char.isDigit

/-- Whether a text is an authority: a host, with user information before it and a port behind
it. -/
def isAuthority (charset : Charset) (s : List Char) : Bool :=
  let (userOk, host) := match cut (· == '@') s with
    | (user, some host) => (allEscapedOr (fun c => charset.isName c || c == ':') user, host)
    | (host, none) => (true, host)
  userOk &&
    match host with
    | '[' :: r =>
      match cut (· == ']') r with
      | (address, some port) => isBracketed address && isPort port
      | _ => false
    | host =>
      allEscapedOr charset.isName (host.takeWhile (· != ':')) &&
        isPort (host.dropWhile (· != ':'))

/-- A reference without query and fragment. -/
def ofHierarchy (s : List Char) : Uri :=
  let (scheme?, s) := match cut (· == ':') s with
    | (scheme, some r) => if scheme.contains '/' then (none, s) else (some scheme, r)
    | _ => (none, s)
  match s with
  | '/' :: '/' :: r =>
    { scheme?, authority? := some (r.takeWhile (· != '/')), path := r.dropWhile (· != '/') }
  | path => { scheme?, path }

/-- The parts of a text, whether or not they are allowed. -/
def split (s : List Char) : Uri :=
  let (s, fragment?) := cut (· == '#') s
  let (s, query?) := cut (· == '?') s
  { ofHierarchy s with query?, fragment? }

/-- Whether the parts are allowed. -/
def isValid (charset : Charset) (uri : Uri) : Bool :=
  let isSegment (c : Char) : Bool := charset.isSegment c || c == '/'
  let isOpen (c : Char) : Bool := isSegment c || c == '?'
  let isQuery (c : Char) : Bool := isOpen c || (charset == .international && isPrivate c)
  uri.scheme?.all isScheme && uri.authority?.all (isAuthority charset)
    && allEscapedOr isSegment uri.path && uri.query?.all (allEscapedOr isQuery)
    && uri.fragment?.all (allEscapedOr isOpen)

/-- The reference that a text writes. -/
def parse? (charset : Charset) (s : List Char) : Option Uri :=
  if (split s).isValid charset then some (split s) else none

/-! ## Reading a reference where it stands -/

/-- The segments of a path without those that stand for a place: one dot for here, two for one
level up. `done` has the segments so far, last one first. -/
def dropDots (done : List (List Char)) : List (List Char) → List (List Char)
  | [] => done.reverse
  | ['.'] :: rest => dropDots (if rest.isEmpty then [] :: done else done) rest
  | ['.', '.'] :: rest => dropDots (if rest.isEmpty then [] :: done.tail else done.tail) rest
  | segment :: rest => dropDots (segment :: done) rest

/-- A path without segments that stand for a place, if it starts with a slash. -/
def withoutDots (path : List Char) : List Char :=
  match path with
  | '/' :: r => (dropDots [] (Text.splitOn (· == '/') r)).flatMap ('/' :: ·)
  | path => path

/-- The path of a relative reference: it replaces what follows the last slash of the base. -/
def mergePath (base : Uri) (path : List Char) : List Char :=
  if base.authority?.isSome && base.path.isEmpty then '/' :: path
  else (base.path.reverse.dropWhile (· != '/')).reverse ++ path

/-- What a reference refers to where `base` is the reference of the place. -/
def resolve (base uri : Uri) : Uri :=
  if uri.scheme?.isSome then { uri with path := withoutDots uri.path }
  else if uri.authority?.isSome then
    { uri with scheme? := base.scheme?, path := withoutDots uri.path }
  else if uri.path.isEmpty then
    { base with query? := uri.query?.orElse fun _ => base.query?, fragment? := uri.fragment? }
  else
    let path := if uri.path.head? == some '/' then uri.path else mergePath base uri.path
    { uri with
      scheme? := base.scheme?, authority? := base.authority?, path := withoutDots path }

/-! ## One text for each resource -/

/-- A text whose escapes have upper-case digits, and none of a character that needs no escape. -/
def normalEscapes : List Char → List Char
  | [] => []
  | '%' :: a :: b :: r =>
    let value (c : Char) : Nat :=
      if c.isDigit then c.toNat - '0'.toNat else c.toUpper.toNat - 'A'.toNat + 10
    let c := Char.ofNat (value a * 16 + value b)
    if isUnreserved c then c :: normalEscapes r
    else '%' :: a.toUpper :: b.toUpper :: normalEscapes r
  | c :: r => c :: normalEscapes r

/-- The reference in the form that stands for all its spellings. -/
def normal (uri : Uri) : Uri :=
  { scheme? := uri.scheme?.map (·.map Char.toLower)
    authority? := uri.authority?.map fun authority =>
      match cut (· == '@') authority with
      | (user, some host) => normalEscapes user ++ '@' :: normalEscapes (host.map Char.toLower)
      | (host, none) => normalEscapes (host.map Char.toLower)
    path := normalEscapes uri.path
    query? := uri.query?.map normalEscapes
    fragment? := uri.fragment?.map normalEscapes }

/-- The text of a reference. -/
def render (uri : Uri) : List Char :=
  (match uri.scheme? with | some scheme => scheme ++ [':'] | none => []) ++
  (match uri.authority? with | some authority => '/' :: '/' :: authority | none => []) ++
  uri.path ++
  (match uri.query? with | some query => '?' :: query | none => []) ++
  (match uri.fragment? with | some fragment => '#' :: fragment | none => [])

end Uri
end ChartSchema.Net
