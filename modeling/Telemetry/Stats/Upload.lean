import Telemetry.Stats.Counter
import Telemetry.Stats.Outcome

/-!
Uploads of request statistics.

An upload carries the outcomes and the counts since the one before. The counts travel as an
object whose keys are the status codes in quotes.
-/
namespace Telemetry

open Json

/-- The body of a stats upload. -/
structure StatsUpload where
  requests : List RequestOutcome
  statusCodes : Dictionary UInt16 UInt64
  deriving DecidableEq

namespace StatsUpload

/-- The wire form of counts in a given order. -/
def countsDocument (counts : List (UInt16 × UInt64)) : Document :=
  .ofMembers (counts.map fun (status, count) =>
    (String.ofList (Text.decimal status.toNat), .ofInt (Int.ofNat count.toNat)))

/-- The wire form with the requests as given documents and the counts in a given order. -/
def documentIn (requests : List Document) (counts : List (UInt16 × UInt64)) : Document :=
  .ofMembers [("HTTPs", .ofList requests), ("RPMs", countsDocument counts)]

def document (u : StatsUpload) : Document :=
  documentIn (u.requests.map RequestOutcome.document) u.statusCodes.entries

/-- Reads counts; of two entries with one status the later one counts. -/
def readCounts (d : Document) : Result (Dictionary UInt16 UInt64) :=
  (Document.readEntries (Quotation.readNumeral Numeral.Value.toUInt16) Document.readUInt64 d).map
    Dictionary.ofList

def shape : Shape :=
  ⟨"StatsUpload", [.of "HTTPs" true (Document.readList RequestOutcome.read),
    .of "RPMs" true readCounts]⟩

def read (d : Document) : Result StatsUpload := do
  let row ← shape.read d
  let requests ← row.need "HTTPs" (Document.readList RequestOutcome.read)
  let statusCodes ← row.need "RPMs" readCounts
  return ⟨requests, statusCodes⟩

def encode (u : StatsUpload) : Bytes :=
  u.document.bytes

def decode (bytes : Bytes) : Result StatsUpload :=
  Json.decode read bytes

def isEmpty (u : StatsUpload) : Bool :=
  u.requests.isEmpty && u.statusCodes.isEmpty

theorem isEmpty_iff {u : StatsUpload} :
    u.isEmpty = true ↔ u.requests = [] ∧ u.statusCodes.entries = [] := by
  rw [isEmpty, Bool.and_eq_true, Dictionary.isEmpty, List.isEmpty_iff, List.isEmpty_iff]

end StatsUpload

end Telemetry
