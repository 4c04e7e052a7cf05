import Telemetry.Http.Message

/-!
Heads of requests as bytes.

A head is a request line and header lines up to an empty line; a line ends with a line feed, which
a carriage return may precede, and empty lines may stand before the request line. Bytes are read
from left to right, so a head is refused for its first fault even if its end is missing; lines
that are too long are looked for last.
-/
namespace Telemetry.Http

/-- Why a head is refused. -/
inductive Refusal where
  | method
  | target
  | version
  | field
  | targetTooLong
  | tooLarge
  deriving DecidableEq, Repr

namespace Refusal

def status : Refusal → Status
  | .method | .target | .version | .field => .badRequest
  | .targetTooLong => ⟨414, by decide⟩
  | .tooLarge => ⟨431, by decide⟩

def message : Refusal → String
  | .method => "invalid HTTP method parsed"
  | .target => "invalid URI"
  | .version => "invalid HTTP version parsed"
  | .field => "invalid HTTP header parsed"
  | .targetTooLong => "URI too long"
  | .tooLarge => "message head is too large"

end Refusal

/-- What comes of reading: a value and the bytes after it, the need for more bytes, or a fault. -/
inductive Reading (α : Type) where
  | done (value : α) (rest : Bytes)
  | more
  | refused (reason : Refusal)
  deriving DecidableEq, Repr

namespace Reading

variable {α β : Type}

def andThen (r : Reading α) (f : α → Bytes → Reading β) : Reading β :=
  match r with
  | .done value rest => f value rest
  | .more => .more
  | .refused reason => .refused reason

end Reading

/-- The version of the protocol. -/
inductive Version where
  | http10
  | http11
  deriving DecidableEq, Repr

namespace Head

def ascii (text : String) : Bytes :=
  text.toList.map fun c => UInt8.ofNat c.toNat

def isTokenByte (b : UInt8) : Bool :=
  b < 0x80 && isTokenChar (Char.ofNat b.toNat)

/-- Whether the byte may stand in the target of a request line. -/
def isTargetByte (b : UInt8) : Bool :=
  0x21 ≤ b && b != 0x7F

/-- Whether the byte is part of a line end. -/
def isLineEnd (b : UInt8) : Bool := b == 0x0D || b == 0x0A

def isBlankByte (b : UInt8) : Bool := b == 0x20 || b == 0x09

def trimBlanks (bytes : Bytes) : Bytes :=
  ((bytes.dropWhile isBlankByte).reverse.dropWhile isBlankByte).reverse

/-- Reads a line end; anything else is refused. -/
def readLineEnd (fault : Refusal) : Bytes → Reading Unit
  | [] => .more
  | 0x0A :: rest => .done () rest
  | 0x0D :: 0x0A :: rest => .done () rest
  | [0x0D] => .more
  | _ => .refused fault

def skipEmptyLines : Bytes → Reading Unit
  | 0x0A :: rest => skipEmptyLines rest
  | 0x0D :: 0x0A :: rest => skipEmptyLines rest
  | [0x0D] => .more
  | 0x0D :: _ => .refused .field
  | bytes => .done () bytes

/-- Reads a word of given bytes and the space after it. -/
def readWord (isMember : UInt8 → Bool) (fault : Refusal) (bytes : Bytes) : Reading Bytes :=
  let word := bytes.takeWhile isMember
  match bytes.dropWhile isMember with
  | [] => .more
  | b :: rest => if b = 0x20 ∧ word ≠ [] then .done word rest else .refused fault

def readVersion (bytes : Bytes) : Reading Version :=
  let start := bytes.take 8
  if start = ascii "HTTP/1.1" then .done .http11 (bytes.drop 8)
  else if start = ascii "HTTP/1.0" then .done .http10 (bytes.drop 8)
  else if start.length < 8 ∧ start.isPrefixOf (ascii "HTTP/1.") then .more
  else .refused .version

/-- Reads a header line, `none` for the empty line that ends a head. Blanks around the value are
no part of it. -/
def readField (bytes : Bytes) : Reading (Option (Bytes × Bytes)) :=
  match bytes with
  | [] => .more
  | b :: _ =>
    if isLineEnd b then (readLineEnd .field bytes).andThen fun _ rest => .done none rest
    else
      let name := bytes.takeWhile isTokenByte
      match bytes.dropWhile isTokenByte with
      | [] => .more
      | c :: rest =>
        if c = 0x3A ∧ name ≠ [] then
          let value := rest.takeWhile isValueByte
          (readLineEnd .field (rest.dropWhile isValueByte)).andThen fun _ rest =>
            .done (some (name, trimBlanks value)) rest
        else .refused .field

/-- Reads header lines up to the empty line, at most so many. -/
def readFields : Nat → Bytes → Reading (List (Bytes × Bytes))
  | most, bytes =>
    (readField bytes).andThen fun field rest =>
      match field with
      | none => .done [] rest
      | some field =>
        match most with
        | 0 => .refused .tooLarge
        | most + 1 =>
          (readFields most rest).andThen fun fields rest => .done (field :: fields) rest

/-- The most header lines that a head may have. -/
def mostFields : Nat := 100

def longestTarget : Nat := 65534

def longestName : Nat := 65535

end Head

/-- A head as it stands on the wire: the parts of its lines. -/
structure HeadLines where
  method : Bytes
  target : Bytes
  version : Version
  fields : List (Bytes × Bytes)
  deriving DecidableEq, Repr

namespace HeadLines

open Head

/-- Refuses lines that are too long. -/
def checked (lines : HeadLines) (rest : Bytes) : Reading HeadLines :=
  if longestTarget < lines.target.length then .refused .targetTooLong
  else if lines.fields.any fun field => longestName < field.1.length then .refused .tooLarge
  else .done lines rest

def read (bytes : Bytes) : Reading HeadLines :=
  (skipEmptyLines bytes).andThen fun _ rest =>
  (readWord isTokenByte .method rest).andThen fun method rest =>
  (readWord isTargetByte .target rest).andThen fun target rest =>
  if (Text.Utf8.decode target).isNone then .refused .target
  else
    (readVersion rest).andThen fun version rest =>
    (readLineEnd .field rest).andThen fun _ rest =>
    (readFields mostFields rest).andThen fun fields rest =>
    checked ⟨method, target, version, fields⟩ rest

end HeadLines

end Telemetry.Http
