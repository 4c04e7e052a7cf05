import Telemetry.Dictionary
import Telemetry.Json.Reader

/-!
Requests worth reporting, and the buffer that holds them until the next upload.

The buffer keeps outcomes in the order in which they were added. Draining takes all of them at
once.
-/
namespace Telemetry

open Json

/-- One request that was slow or failed. -/
structure RequestOutcome where
  path : String
  method : String
  status : UInt16
  elapsed : UInt64
  span : Int64
  parentSpan : Int64
  isProblem : Bool
  headers : Dictionary String String
  deriving DecidableEq

namespace RequestOutcome

/-- The wire form of headers in a given order. -/
def headersDocument (headers : List (String × String)) : Document :=
  .ofMembers (headers.map fun (name, value) => (name, .ofString value))

/-- The wire form with the headers in a given order. -/
def documentIn (headers : List (String × String)) (o : RequestOutcome) : Document :=
  .ofMembers [("Path", .ofString o.path), ("Method", .ofString o.method),
    ("StatusCode", .ofInt (Int.ofNat o.status.toNat)),
    ("Time", .ofInt (Int.ofNat o.elapsed.toNat)), ("SpanId", .ofInt o.span.toInt),
    ("ParentSpanId", .ofInt o.parentSpan.toInt), ("IsProblem", .ofBool o.isProblem),
    ("Headers", headersDocument headers)]

def document (o : RequestOutcome) : Document :=
  o.documentIn o.headers.entries

/-- Reads headers; of two entries with one name the later one counts. -/
def readHeaders (d : Document) : Result (Dictionary String String) :=
  (Document.readEntries Quotation.read Document.readString d).map Dictionary.ofList

def shape : Shape :=
  ⟨"RequestOutcome", [.of "Path" true Document.readString, .of "Method" true Document.readString,
    .of "StatusCode" true Document.readUInt16, .of "Time" true Document.readUInt64,
    .of "SpanId" true Document.readInt64, .of "ParentSpanId" true Document.readInt64,
    .of "IsProblem" true Document.readBool, .of "Headers" true readHeaders]⟩

def read (d : Document) : Result RequestOutcome := do
  let row ← shape.read d
  let path ← row.need "Path" Document.readString
  let method ← row.need "Method" Document.readString
  let status ← row.need "StatusCode" Document.readUInt16
  let elapsed ← row.need "Time" Document.readUInt64
  let span ← row.need "SpanId" Document.readInt64
  let parentSpan ← row.need "ParentSpanId" Document.readInt64
  let isProblem ← row.need "IsProblem" Document.readBool
  let headers ← row.need "Headers" readHeaders
  return ⟨path, method, status, elapsed, span, parentSpan, isProblem, headers⟩

def encode (o : RequestOutcome) : Bytes :=
  o.document.bytes

def decode (bytes : Bytes) : Result RequestOutcome :=
  Json.decode read bytes

end RequestOutcome

/-- The outcomes recorded since the last upload, the oldest first. -/
structure OutcomeBuffer where
  outcomes : List RequestOutcome
  deriving DecidableEq, Inhabited

namespace OutcomeBuffer

def empty : OutcomeBuffer := ⟨[]⟩

def toList (b : OutcomeBuffer) : List RequestOutcome := b.outcomes

def add (o : RequestOutcome) (b : OutcomeBuffer) : OutcomeBuffer := ⟨b.outcomes ++ [o]⟩

/-- Takes every outcome and leaves the buffer empty. -/
def drain (b : OutcomeBuffer) : List RequestOutcome × OutcomeBuffer := (b.outcomes, empty)

def reset (_ : OutcomeBuffer) : OutcomeBuffer := empty

def size (b : OutcomeBuffer) : Nat := b.outcomes.length

def isEmpty (b : OutcomeBuffer) : Bool := b.outcomes.isEmpty

end OutcomeBuffer

end Telemetry
