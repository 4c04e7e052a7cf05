import Telemetry.Text.Utf8

/-!
HTTP headers.

Names are tokens and kept in lower case, so names that differ in letter case are one name.
Values are bytes without controls. A header map keeps the values of each name in the order in
which they were appended.
-/
namespace Telemetry.Http

def isTokenChar (c : Char) : Bool :=
  c.isAlphanum || "!#$%&'*+-.^_`|~".toList.contains c

/-- Whether the character may stand in a header name. -/
def isNameChar (c : Char) : Bool :=
  isTokenChar c && !c.isUpper

/-- The name of a header, in lower case. -/
structure HeaderName where
  chars : List Char
  valid : chars ≠ [] ∧ chars.all isNameChar = true
  deriving DecidableEq, Repr

def isValueByte (b : UInt8) : Bool :=
  b == 0x09 || (0x20 ≤ b && b != 0x7F)

/-- The value of a header. -/
structure HeaderValue where
  bytes : Bytes
  valid : bytes.all isValueByte = true
  deriving DecidableEq, Repr

/-- Why something is no header. -/
inductive HeaderError where
  | name
  | value
  deriving DecidableEq, Repr

def HeaderError.message : HeaderError → String
  | .name => "invalid HTTP header name"
  | .value => "failed to parse header value"

namespace HeaderName

/-- The name in a list of characters, in any letter case. -/
def ofChars? (chars : List Char) : Option HeaderName :=
  let lower := chars.map Char.toLower
  if h : lower ≠ [] ∧ lower.all isNameChar = true then some ⟨lower, h⟩ else none

def ofBytes (bytes : Bytes) : Except HeaderError HeaderName :=
  match ofChars? (bytes.map fun b => Char.ofNat b.toNat) with
  | some name => .ok name
  | none => .error .name

def toString (n : HeaderName) : String :=
  String.ofList n.chars

def contentType : HeaderName := ⟨"content-type".toList, by decide⟩

def contentLength : HeaderName := ⟨"content-length".toList, by decide⟩

def host : HeaderName := ⟨"host".toList, by decide⟩

end HeaderName

namespace HeaderValue

def ofBytes (bytes : Bytes) : Except HeaderError HeaderValue :=
  if h : bytes.all isValueByte = true then .ok ⟨bytes, h⟩ else .error .value

def ofString (s : String) : Except HeaderError HeaderValue :=
  ofBytes (Text.Utf8.ofString s)

/-- The value as text, `none` unless it is ASCII. -/
def toChars? (v : HeaderValue) : Option (List Char) :=
  if v.bytes.all fun b => b < 0x7F then some (v.bytes.map fun b => Char.ofNat b.toNat) else none

/-- The value as text, with U+FFFD in the place of ill-formed pieces. -/
def toStringLossy (v : HeaderValue) : String :=
  Text.Utf8.toStringLossy v.bytes

def json : HeaderValue := ⟨"application/json".toList.map fun c => UInt8.ofNat c.toNat, by decide⟩

def plainText : HeaderValue :=
  ⟨"text/plain; charset=utf-8".toList.map fun c => UInt8.ofNat c.toNat, by decide⟩

end HeaderValue

/-- A header map: names and values in the order in which they came. -/
abbrev Headers := List (HeaderName × HeaderValue)

namespace Headers

/-- Adds a value to those of its name. -/
def append (name : HeaderName) (value : HeaderValue) (hs : Headers) : Headers :=
  hs ++ [(name, value)]

/-- Makes a value the only one of its name. -/
def insert (name : HeaderName) (value : HeaderValue) (hs : Headers) : Headers :=
  hs.filter (fun h => h.1 ≠ name) ++ [(name, value)]

def getAll (hs : Headers) (name : HeaderName) : List HeaderValue :=
  (hs.filter fun h => h.1 = name).map Prod.snd

def get? (hs : Headers) (name : HeaderName) : Option HeaderValue :=
  (hs.getAll name).head?

/-- The names, each one once, in the order of their first values. -/
def names : Headers → List HeaderName
  | [] => []
  | h :: rest => h.1 :: (names rest).filter (· ≠ h.1)

/-- The headers by name; the values of one name keep their order. -/
def byName (hs : Headers) : Headers :=
  hs.mergeSort fun a b => decide (a.1.toString ≤ b.1.toString)

end Headers

end Telemetry.Http
