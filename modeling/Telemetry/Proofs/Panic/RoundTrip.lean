import Telemetry.Panic.Report
import Telemetry.Proofs.Commands.Replies
import Telemetry.Proofs.Json.Line

/-!
Replies and panic reports come back from their text.

Both leave a member out on the way out: a reply its commands if there are none, a report its span
if it has none. Every report comes back, also one that `PanicReport.make` never builds, such as one
with a negative span. The text is one line in either case.
-/
namespace Telemetry

open Json

namespace PanicReport

/-- The members of a report. Without a span the last one is `null`, which is left out. -/
def entries (r : PanicReport) : List Entry :=
  [⟨"ErrorName", .ofString r.message, false⟩, ⟨"Body", .ofString r.body, false⟩,
    ⟨"SpanId", match r.span with
      | some span => .ofInt span.toInt
      | none => .word .null, r.span.isNone⟩]

theorem nodup_names : shape.names.Nodup := by decide

theorem readSpan_ofInt (span : Int64) : readSpan (.ofInt span.toInt) = .ok (some span) := by
  show (Document.readInt64 (.ofInt span.toInt)).map some = _
  rw [Document.readInt64_ofInt]
  rfl

theorem readSpan_entry (span : Option Int64) :
    readSpan (match span with
      | some span => .ofInt span.toInt
      | none => .word .null) = .ok span := by
  cases span with
  | none => rfl
  | some span => exact readSpan_ofInt span

theorem fits_entries (r : PanicReport) : shape.Fits r.entries :=
  .cons ⟨rfl, Field.check_of (Document.readString_ofString r.message), fun _ => rfl⟩ <|
  .cons ⟨rfl, Field.check_of (Document.readString_ofString r.body), fun _ => rfl⟩ <|
  .cons ⟨rfl, Field.check_of (readSpan_entry r.span), by rintro ⟨⟩⟩ .nil

theorem variant_document (r : PanicReport) : shape.Variant r.entries r.document := by
  obtain ⟨message, body, span⟩ := r
  cases span with
  | none =>
    exact shape.variant_ofMembers [⟨"ErrorName", .ofString message, false⟩,
      ⟨"Body", .ofString body, false⟩] (by simp [entries]) (by simp [entries])
  | some span => exact shape.variant_self _

theorem isValid_document (r : PanicReport) : r.document.IsValid := by
  refine Shape.isValid_of_variant (fun e he => ?_) r.variant_document
  simp only [entries, List.mem_cons, List.not_mem_nil, or_false] at he
  rcases he with rfl | rfl | rfl
  · exact Document.isValid_ofString _
  · exact Document.isValid_ofString _
  · cases r.span with
    | none => trivial
    | some span => exact Document.isValid_ofInt _

theorem read_document (r : PanicReport) : read r.document = .ok r := by
  obtain ⟨row, hrow, hhas⟩ := Shape.read_variant nodup_names r.fits_entries r.variant_document
  simp only [entries, List.forall_mem_cons] at hhas
  obtain ⟨hmessage, hbody, hspan, -⟩ := hhas
  have hmessage := Row.need_of_has hmessage (Document.readString_ofString r.message)
  have hbody := Row.need_of_has hbody (Document.readString_ofString r.body)
  have hspan := Row.getD_of_has hspan (readSpan_entry r.span) Option.isNone_iff_eq_none.1
  simp only [read, hrow, hmessage, hbody, hspan, bind, Except.bind, pure, Except.pure]

theorem decode_encode (r : PanicReport) : decode r.encode = .ok r := by
  rw [decode, encode, decode_bytes r.isValid_document, r.read_document]

end PanicReport

/-- Every reply and every panic report comes back from its text, the commands of a reply with the
kinds they had, and either text is one line without a control character. -/
theorem reply_and_report_round_trip :
    (∀ r : CollectorReply,
      (∃ decoded, CollectorReply.decode r.encode = .ok decoded ∧ decoded = r ∧
        decoded.commands.map Command.kind = r.commands.map Command.kind) ∧
      ∀ b ∈ r.encode, 0x20 ≤ b) ∧
    ∀ r : PanicReport,
      PanicReport.decode r.encode = .ok r ∧ ∀ b ∈ r.encode, 0x20 ≤ b := by
  constructor
  · intro r
    refine ⟨⟨r, r.decode_encode, rfl, rfl⟩, ?_⟩
    exact Document.le_of_mem_bytes (CollectorReply.isValid_of_variant r.variant_document)
  · intro r
    exact ⟨r.decode_encode, Document.le_of_mem_bytes r.isValid_document⟩

end Telemetry
