import Telemetry.Panic.Backtrace
import Telemetry.Json.Reader

/-!
Reports of panics.

A report names the panic, carries its trace on one line and the span in which it happened. The
span is left out unless it is positive.
-/
namespace Telemetry

open Json

/-- The body of a panic report. -/
structure PanicReport where
  message : String
  body : String
  span : Option Int64
  deriving DecidableEq, Repr

namespace PanicReport

/-- The report of a message with a raw trace. -/
def make (message trace : String) (span : Int64) : PanicReport :=
  ⟨message, cleanTrace trace, if 0 < span then some span else none⟩

def document (r : PanicReport) : Document :=
  .ofMembers ([("ErrorName", .ofString r.message), ("Body", .ofString r.body)] ++
    match r.span with
    | some span => [("SpanId", .ofInt span.toInt)]
    | none => [])

/-- Reads the span, `null` standing for none. -/
def readSpan : Document → Result (Option Int64) :=
  Document.readOptional Document.readInt64

def shape : Shape :=
  ⟨"PanicReport", [.of "ErrorName" true Document.readString,
    .of "Body" true Document.readString, .of "SpanId" false readSpan]⟩

def read (d : Document) : Result PanicReport := do
  let row ← shape.read d
  let message ← row.need "ErrorName" Document.readString
  let body ← row.need "Body" Document.readString
  let span ← row.getD "SpanId" readSpan none
  return ⟨message, body, span⟩

def encode (r : PanicReport) : Bytes :=
  r.document.bytes

def decode (bytes : Bytes) : Result PanicReport :=
  Json.decode read bytes

end PanicReport

end Telemetry
