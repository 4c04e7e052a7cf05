import Telemetry.Http.Head
import Telemetry.Text.Blank

/-!
What the header lines of a request say about the request itself: how its body ends, whether the
client waits for a signal before it sends the body, and whether the connection stays open after it.

A body ends after a count of bytes, or with an empty chunk; without either there is no body. All
lengths must agree, and chunks must be the last coding. Where chunks and a length stand together
the length is dropped, and since the two sides may not agree on it the connection ends.
-/
namespace Telemetry.Http

/-- How a body ends. -/
inductive Framing where
  | length (size : Nat)
  | chunked
  deriving DecidableEq, Repr

/-- The head of a request. -/
structure Head where
  method : String
  target : Target
  version : Version
  headers : Headers
  framing : Framing
  staysOpen : Bool
  deriving DecidableEq, Repr

namespace Head

/-- The words of a header value that holds a list, in lower case. Only ASCII values hold words. -/
def wordsOf (value : HeaderValue) : List String :=
  match value.toChars? with
  | some text => (text.splitOn ',').map fun word =>
      String.ofList ((Text.trim word).map Char.toLower)
  | none => []

/-- The words of all values of a header. -/
def words (headers : Headers) (name : HeaderName) : List String :=
  (headers.getAll name).flatMap wordsOf

/-- The header that says whether the connection stays open. -/
def connection : HeaderName := ⟨"connection".toList, by decide⟩

def transferEncoding : HeaderName := ⟨"transfer-encoding".toList, by decide⟩

/-- The header by which a client asks to be told that the server is ready for the body. -/
def expect : HeaderName := ⟨"expect".toList, by decide⟩

/-- Whether the connection stays open after a message with these headers. -/
def keepsOpen (version : Version) (headers : Headers) : Bool :=
  let words := words headers connection
  !words.contains "close" && (version = .http11 || words.contains "keep-alive")

/-- Whether the last coding of a body is in chunks. -/
def endsInChunks (coding : HeaderValue) : Bool :=
  (wordsOf coding).getLast? = some "chunked"

def longestBody : Nat := UInt64.size - 3

/-- The length that a header value gives. -/
def lengthOf (value : HeaderValue) : Option Nat :=
  match value.toChars? with
  | some (c :: rest) =>
    if c = '+' then none else (Text.readNat (UInt64.size - 1) (c :: rest)).toOption
  | _ => none

end Head

/-- What header lines have said so far: the headers that count, whether the last coding is in
chunks, the length, and whether there was a length at all. -/
structure FieldScan where
  headers : Headers := []
  inChunks : Option Bool := none
  length : Option Nat := none
  sawLength : Bool := false
  deriving DecidableEq, Repr

namespace FieldScan

def add (name : HeaderName) (value : HeaderValue) (s : FieldScan) : FieldScan :=
  { s with headers := s.headers.append name value }

def takeCoding (version : Version) (value : HeaderValue) (s : FieldScan) :
    Except Refusal FieldScan :=
  if version = .http10 then .error .field
  else .ok { s.add Head.transferEncoding value with inChunks := some (Head.endsInChunks value) }

/-- Takes a length. After a coding it says nothing, and one that repeats another is dropped. -/
def takeLength (value : HeaderValue) (s : FieldScan) : Except Refusal FieldScan :=
  if s.inChunks.isSome then .ok { s with sawLength := true }
  else
    match Head.lengthOf value, s.length with
    | none, _ => .error .field
    | some size, some known => if size = known then .ok s else .error .field
    | some size, none =>
      if Head.longestBody < size then .error .tooLarge
      else .ok { s.add .contentLength value with length := some size, sawLength := true }

def take (version : Version) (s : FieldScan) (field : Bytes × Bytes) :
    Except Refusal FieldScan :=
  match HeaderName.ofBytes field.1, HeaderValue.ofBytes field.2 with
  | .ok name, .ok value =>
    if name = Head.transferEncoding then s.takeCoding version value
    else if name = .contentLength then s.takeLength value
    else .ok (s.add name value)
  | _, _ => .error .field

end FieldScan

namespace Head

/-- The head of a request whose header lines have been taken. -/
def ofScan (method : String) (target : Target) (version : Version) (s : FieldScan) :
    Except Refusal Head :=
  let staysOpen := keepsOpen version s.headers
  match s.inChunks with
  | none => .ok ⟨method, target, version, s.headers, .length (s.length.getD 0), staysOpen⟩
  | some false => .error .field
  | some true =>
    let headers := s.headers.filter fun header => header.1 ≠ HeaderName.contentLength
    .ok ⟨method, target, version, headers, .chunked, staysOpen && !s.sawLength⟩

/-- Whether the client wants to be told that the server is ready for the body. The last wish
counts, and without a body there is nothing to wait for. -/
def awaitsSignal (head : Head) : Bool :=
  head.version = .http11 && head.framing ≠ .length 0 &&
    ((head.headers.getAll expect).getLast?.bind HeaderValue.toChars?).map (·.map Char.toLower) =
      some "100-continue".toList

/-- The head that lines spell. -/
def ofLines (lines : HeadLines) : Except Refusal Head :=
  match Target.parse? lines.target with
  | none => .error .target
  | some target => do
    let scan ← lines.fields.foldlM (FieldScan.take lines.version) {}
    ofScan (Text.Utf8.toStringLossy lines.method) target lines.version scan

end Head

end Telemetry.Http
