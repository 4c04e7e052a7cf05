import Telemetry.Text.Utf8

/-!
The target that an address asks its server for.

Of an address, the server sees what follows the authority: the path and the query, without the
fragment. Dot segments of the path are resolved, and bytes that may not stand in a path or a query
are written as a percent sign and two digits.
-/
namespace Telemetry.Http.Address

def hexDigit (n : Nat) : Char :=
  if n < 10 then Char.ofNat (0x30 + n) else Char.ofNat (0x37 + n)

/-- A byte as a percent sign and two digits. -/
def escapeByte (b : UInt8) : List Char :=
  ['%', hexDigit (b.toNat / 16), hexDigit (b.toNat % 16)]

/-- Whether a character stands for itself neither in a path nor in a query. -/
def isSpecial (c : Char) : Bool :=
  c.toNat ≤ 0x20 || 0x7F ≤ c.toNat || "\"#<>".toList.contains c

def isEscapedInPath (c : Char) : Bool :=
  isSpecial c || c = '?' || c = '`' || c = '\x7b' || c = '\x7d'

def isEscapedInQuery (c : Char) : Bool :=
  isSpecial c || c = '\''

def escape (isEscaped : Char → Bool) (text : List Char) : List Char :=
  text.flatMap fun c =>
    if isEscaped c then (Text.Utf8.encodeChar c).flatMap escapeByte else [c]

/-- The spellings of a dot. -/
def dots : List (List Char) := [".", "%2e"].map String.toList

/-- Whether a segment stands for the directory it is in. -/
def isHere (segment : List Char) : Bool :=
  dots.contains (segment.map Char.toLower)

/-- Whether a segment stands for the directory above. -/
def isAbove (segment : List Char) : Bool :=
  (dots.flatMap fun first => dots.map (first ++ ·)).contains (segment.map Char.toLower)

/-- Resolves dot segments; `before` holds the segments passed, the last first. -/
def resolve (before : List (List Char)) : List (List Char) → List (List Char)
  | [] => before.reverse
  | [last] =>
    if isAbove last then ([] :: before.drop 1).reverse
    else if isHere last then ([] :: before).reverse
    else (last :: before).reverse
  | segment :: rest =>
    if isAbove segment then resolve (before.drop 1) rest
    else if isHere segment then resolve before rest
    else resolve (segment :: before) rest

def path (text : List Char) : List Char :=
  let text := text.map fun c => if c = '\\' then '/' else c
  let text := if text.head? = some '/' then text.drop 1 else text
  let segments := resolve [] (text.splitOn '/')
  (segments.map fun segment => '/' :: escape isEscapedInPath segment).flatten

/-- Whether the character is dropped wherever it stands. -/
def isDropped (c : Char) : Bool := c = '\t' || c = '\n' || c = '\r'

/-- The target of an address, given by what follows its authority. -/
def target (text : String) : String :=
  let text := text.toList.filter fun c => !isDropped c
  let text := (text.reverse.dropWhile fun c => c.toNat ≤ 0x20).reverse
  let text := text.takeWhile (· ≠ '#')
  let query := text.dropWhile (· ≠ '?')
  String.ofList (path (text.takeWhile (· ≠ '?')) ++
    match query with
    | [] => []
    | mark :: rest => mark :: escape isEscapedInQuery rest)

end Telemetry.Http.Address
