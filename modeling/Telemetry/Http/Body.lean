import Telemetry.Http.Framing
import Telemetry.Text.Hexadecimal

/-!
Bodies of requests as bytes.

A body with a length is that many bytes. A body in chunks is a row of chunks, each with its size
in hexadecimal digits on a line before it and a line end after it; the line may carry an
extension, which is passed over. An empty chunk is the last one, and trailing header lines may
follow it up to an empty line. Every line ends with a carriage return and a line feed, and a body
that strays from this, or ends too soon, is broken as a whole.
-/
namespace Telemetry.Http

namespace Framing

/-- A whole body in its pieces, and the bytes after it. -/
structure Contents where
  pieces : List Bytes
  rest : Bytes
  deriving DecidableEq, Repr

/-- The value of a byte that is a hexadecimal digit. -/
def hexDigit? (b : UInt8) : Option Nat := Text.hexDigit? (Target.charOf b)

def isHexDigit (b : UInt8) : Bool := (hexDigit? b).isSome

/-- The number that hexadecimal digits give, `none` if it has more than 64 bits or no digit. -/
def sizeOf? (digits : Bytes) : Option Nat :=
  let size := digits.foldl (fun n b => n * 16 + (hexDigit? b).getD 0) 0
  if digits = [] ∨ UInt64.size ≤ size then none else some size

/-- The line before a chunk: the size of the chunk and the size of the extension. -/
structure ChunkLine where
  size : Nat
  extension : Nat
  deriving DecidableEq, Repr

def readChunkLine (bytes : Bytes) : Option (ChunkLine × Bytes) := do
  let size ← sizeOf? (bytes.takeWhile isHexDigit)
  match (bytes.dropWhile isHexDigit).dropWhile Head.isBlankByte with
  | 0x0D :: 0x0A :: rest => some (⟨size, 0⟩, rest)
  | 0x3B :: extended =>
    let extension := extended.takeWhile fun b => !Head.isLineEnd b
    match extended.drop extension.length with
    | 0x0D :: 0x0A :: rest => some (⟨size, extension.length⟩, rest)
    | _ => none
  | _ => none

/-- The extensions of a body are shorter than this, all together. -/
def extensionLimit : Nat := 16384

/-- The header lines after the last chunk are fewer than this. -/
def trailerLimit : Nat := 100

/-- The part after the last chunk is shorter than this if it has header lines. -/
def trailerSizeLimit : Nat := 16384

/-- What follows the last chunk: how many lines, their size with the empty line, and the bytes
after them. -/
structure Trailers where
  count : Nat
  size : Nat
  rest : Bytes
  deriving DecidableEq, Repr

/-- Reads the lines after the last chunk, at most so many. -/
def readTrailers : Nat → Bytes → Option Trailers
  | _, 0x0D :: 0x0A :: rest => some ⟨0, 2, rest⟩
  | most + 1, bytes =>
    let line := bytes.takeWhile (· != 0x0D)
    match line, bytes.drop line.length with
    | _ :: _, 0x0D :: 0x0A :: rest =>
      (readTrailers most rest).map fun t => ⟨t.count + 1, line.length + 2 + t.size, t.rest⟩
    | _, _ => none
  | 0, _ => none

/-- Whether the lines after the last chunk are header lines. -/
def areFields (count : Nat) (bytes : Bytes) : Bool :=
  match Head.readFields count bytes with
  | .done _ _ => true
  | _ => false

/-- The bytes after the end of a body in chunks. -/
def afterTrailers (bytes : Bytes) : Option Bytes := do
  let trailers ← readTrailers (trailerLimit - 1) bytes
  if trailers.count = 0 then some trailers.rest
  else if trailers.size < trailerSizeLimit ∧
      areFields trailers.count (bytes.take trailers.size) then
    some trailers.rest
  else none

/-- Reads chunks, at most so many; `extensions` is the size of the extensions so far. -/
def readChunks : Nat → Nat → Bytes → Option Contents
  | 0, _, _ => none
  | most + 1, extensions, bytes => do
    let (line, bytes) ← readChunkLine bytes
    let extensions := extensions + line.extension
    if extensionLimit ≤ extensions then none
    else if line.size = 0 then
      return ⟨[], ← afterTrailers bytes⟩
    else
      match bytes.drop line.size with
      | 0x0D :: 0x0A :: rest =>
        let others ← readChunks most extensions rest
        return { others with pieces := bytes.take line.size :: others.pieces }
      | _ => none

/-- Reads a body, `none` if it is broken. Each chunk takes at least one byte. -/
def read (framing : Framing) (bytes : Bytes) : Option Contents :=
  match framing with
  | .length 0 => some ⟨[], bytes⟩
  | .length size =>
    if bytes.length < size then none else some ⟨[bytes.take size], bytes.drop size⟩
  | .chunked => readChunks (bytes.length + 1) 0 bytes

end Framing

end Telemetry.Http
