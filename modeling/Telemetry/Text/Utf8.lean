/-!
Text as UTF-8 bytes.

Reading goes byte by byte. A byte that cannot continue a character ends it as ill-formed and
is then looked at again as the start of the next one, so every maximal ill-formed piece is
reported once. The strict reader accepts texts without such a piece; the lossy reader puts
U+FFFD in the place of each.
-/
namespace Telemetry

abbrev Bytes := List UInt8

namespace Text.Utf8

def encodeChar (c : Char) : Bytes :=
  let n := c.toNat
  if n < 0x80 then [UInt8.ofNat n]
  else if n < 0x800 then [UInt8.ofNat (0xC0 + n / 64), UInt8.ofNat (0x80 + n % 64)]
  else if n < 0x10000 then
    [UInt8.ofNat (0xE0 + n / 4096), UInt8.ofNat (0x80 + n / 64 % 64), UInt8.ofNat (0x80 + n % 64)]
  else
    [UInt8.ofNat (0xF0 + n / 262144), UInt8.ofNat (0x80 + n / 4096 % 64),
     UInt8.ofNat (0x80 + n / 64 % 64), UInt8.ofNat (0x80 + n % 64)]

def encode (s : List Char) : Bytes :=
  s.flatMap encodeChar

/-- Where the reader stands: between characters, or inside one whose next byte must lie in
`low ..= high`, with `more` further bytes after that one and `bits` read so far. -/
inductive Position where
  | between
  | inside (more : Nat) (low high : UInt8) (bits : Nat)
  deriving DecidableEq, Repr

/-- What a byte means at the start of a character. -/
inductive Lead where
  | single (c : Char)
  | opens (more : Nat) (low high : UInt8) (bits : Nat)
  | illFormed
  deriving DecidableEq, Repr

/-- Reads the first byte of a character. The bounds on the second byte rule out overlong
forms, surrogates and numbers above U+10FFFF. -/
def lead (b : UInt8) : Lead :=
  if b < 0x80 then .single (Char.ofNat b.toNat)
  else if b < 0xC2 then .illFormed
  else if b < 0xE0 then .opens 0 0x80 0xBF (b.toNat - 0xC0)
  else if b == 0xE0 then .opens 1 0xA0 0xBF 0
  else if b == 0xED then .opens 1 0x80 0x9F 0xD
  else if b < 0xF0 then .opens 1 0x80 0xBF (b.toNat - 0xE0)
  else if b == 0xF0 then .opens 2 0x90 0xBF 0
  else if b < 0xF4 then .opens 2 0x80 0xBF (b.toNat - 0xF0)
  else if b == 0xF4 then .opens 2 0x80 0x8F 4
  else .illFormed

/-- The characters of a byte string, `none` standing for one maximal ill-formed piece. -/
def scan : Position → Bytes → List (Option Char)
  | .between, [] => []
  | .inside .., [] => [none]
  | .between, b :: rest =>
    match lead b with
    | .single c => some c :: scan .between rest
    | .opens more low high bits => scan (.inside more low high bits) rest
    | .illFormed => none :: scan .between rest
  | .inside more low high bits, b :: rest =>
    if low ≤ b ∧ b ≤ high then
      let bits := bits * 64 + (b.toNat - 0x80)
      match more with
      | 0 => some (Char.ofNat bits) :: scan .between rest
      | more + 1 => scan (.inside more 0x80 0xBF bits) rest
    else
      none ::
        match lead b with
        | .single c => some c :: scan .between rest
        | .opens more low high bits => scan (.inside more low high bits) rest
        | .illFormed => none :: scan .between rest

/-- All the characters, if none is missing. -/
def allPresent : List (Option Char) → Option (List Char)
  | [] => some []
  | none :: _ => none
  | some c :: rest => (allPresent rest).map (c :: ·)

/-- The text of well-formed bytes, `none` for ill-formed ones. -/
def decode (bytes : Bytes) : Option (List Char) :=
  allPresent (scan .between bytes)

/-- The text of any bytes, with U+FFFD for each maximal ill-formed piece. -/
def decodeLossy (bytes : Bytes) : List Char :=
  (scan .between bytes).map (·.getD '\uFFFD')

def ofString (s : String) : Bytes :=
  encode s.toList

/-- The string of well-formed bytes. -/
def toString? (bytes : Bytes) : Option String :=
  (decode bytes).map String.ofList

/-- The string of any bytes, ill-formed pieces replaced. -/
def toStringLossy (bytes : Bytes) : String :=
  String.ofList (decodeLossy bytes)

theorem encode_append (s t : List Char) : encode (s ++ t) = encode s ++ encode t := by
  simp [encode]

theorem allPresent_map_some (s : List Char) : allPresent (s.map some) = some s := by
  induction s with
  | nil => rfl
  | cons c s ih => simp [allPresent, ih]

end Text.Utf8

end Telemetry
