import Telemetry.Capture.Upload
import Telemetry.Proofs.Json.Number
import Telemetry.Proofs.Json.Record
import Telemetry.Proofs.Text.Base64

/-!
Captures travel without loss.

An upload comes back from its text. And where a text is taken for an upload, whoever wrote it, the
strings in it are the base64 of the bytes, so different strings never stand for the same bytes.
-/
namespace Telemetry

open Json Text

namespace CaptureUpload

/-! ### Bytes as strings -/

theorem plain_symbol : ∀ n < 64, (Base64.symbol n).toNat < 0x80 ∧
    0x20 ≤ (Utf8.asciiChar (Base64.symbol n)).toNat ∧ Utf8.asciiChar (Base64.symbol n) ≠ '\"' ∧
      Utf8.asciiChar (Base64.symbol n) ≠ '\\' := by
  decide

theorem plain_of_mem_encode {bytes : Bytes} {b : UInt8} (h : b ∈ Base64.encode bytes) :
    b.toNat < 0x80 ∧ IsPlain (Utf8.asciiChar b) := by
  rcases Base64.mem_encode h with rfl | ⟨n, hn, rfl⟩
  · exact ⟨by decide, by decide, by decide, by decide⟩
  · exact plain_symbol n hn

/-- Base64 needs no escapes, so it is written like any string. -/
theorem bytesDocument_eq_ofString (bytes : Bytes) :
    ∃ text, bytesDocument bytes = .ofString text ∧ Utf8.ofString text = Base64.encode bytes := by
  let text := String.ofList ((Base64.encode bytes).map Utf8.asciiChar)
  have hlist : text.toList = (Base64.encode bytes).map Utf8.asciiChar := String.toList_ofList
  have htext : Utf8.ofString text = Base64.encode bytes := by
    rw [Utf8.ofString, hlist, Utf8.encode_asciiChar fun b hb => (plain_of_mem_encode hb).1]
  have hplain : ∀ c ∈ text.toList, IsPlain c := by
    intro c hc
    rw [hlist] at hc
    obtain ⟨b, hb, rfl⟩ := List.mem_map.1 hc
    exact (plain_of_mem_encode hb).2
  refine ⟨text, ?_, htext⟩
  rw [bytesDocument, Document.ofString, pieces_of_isPlain hplain, htext]

theorem readBytes_eq_ok {d : Document} {bytes : Bytes} :
    readBytes d = .ok bytes ↔
      ∃ text, d.readString = .ok text ∧ Utf8.ofString text = Base64.encode bytes := by
  rw [readBytes, bind_eq_ok]
  constructor
  · rintro ⟨text, hread, h⟩
    split at h
    · next hdecode =>
      cases h
      exact ⟨text, hread, Base64.decode_eq_ok_iff.1 hdecode⟩
    · cases h
  · rintro ⟨text, hread, h⟩
    exact ⟨text, hread, by rw [Base64.decode_eq_ok_iff.2 h]⟩

theorem readBytes_bytesDocument (bytes : Bytes) : readBytes (bytesDocument bytes) = .ok bytes := by
  obtain ⟨text, hdocument, htext⟩ := bytesDocument_eq_ofString bytes
  rw [hdocument]
  exact readBytes_eq_ok.2 ⟨text, Document.readString_ofString text, htext⟩

theorem isValid_bytesDocument (bytes : Bytes) : (bytesDocument bytes).IsValid := by
  obtain ⟨text, hdocument, -⟩ := bytesDocument_eq_ofString bytes
  rw [hdocument]
  exact Document.isValid_ofString text

/-! ### From an upload to its text and back -/

/-- The members of an upload. -/
def entries (u : CaptureUpload) : List Entry :=
  [⟨"CommandId", .ofInt u.commandId.toInt, false⟩, ⟨"Out", bytesDocument u.out, false⟩,
    ⟨"Pkg", bytesDocument u.package, u.package.isEmpty⟩, ⟨"Ignored", .ofBool u.ignored, false⟩]

theorem nodup_names : shape.names.Nodup := by decide

theorem fits_entries (u : CaptureUpload) : shape.Fits u.entries :=
  .cons ⟨rfl, Field.check_of (Document.readInt64_ofInt u.commandId), fun _ => rfl⟩ <|
  .cons ⟨rfl, Field.check_of (readBytes_bytesDocument u.out), fun _ => rfl⟩ <|
  .cons ⟨rfl, Field.check_of (readBytes_bytesDocument u.package), by rintro ⟨⟩⟩ <|
  .cons ⟨rfl, Field.check_of (Document.readBool_ofBool u.ignored), fun _ => rfl⟩ .nil

theorem isValid_entries (u : CaptureUpload) : ∀ e ∈ u.entries, e.value.IsValid := by
  intro e he
  simp only [entries, List.mem_cons, List.not_mem_nil, or_false] at he
  rcases he with rfl | rfl | rfl | rfl
  · exact Document.isValid_ofInt _
  · exact isValid_bytesDocument _
  · exact isValid_bytesDocument _
  · exact Document.isValid_ofBool _

theorem variant_document (u : CaptureUpload) : shape.Variant u.entries u.document := by
  obtain ⟨commandId, out, package, ignored⟩ := u
  cases package with
  | nil =>
    exact shape.variant_ofMembers [⟨"CommandId", .ofInt commandId.toInt, false⟩,
      ⟨"Out", bytesDocument out, false⟩, ⟨"Ignored", .ofBool ignored, false⟩]
      (by simp [entries]) (by simp [entries])
  | cons b package => exact shape.variant_self _

theorem isValid_document (u : CaptureUpload) : u.document.IsValid :=
  Shape.isValid_of_variant u.isValid_entries u.variant_document

theorem read_variant {u : CaptureUpload} {d : Document} (h : shape.Variant u.entries d) :
    read d = .ok u := by
  obtain ⟨row, hrow, hhas⟩ := Shape.read_variant nodup_names u.fits_entries h
  simp only [entries, List.forall_mem_cons] at hhas
  obtain ⟨hid, hout, hpackage, hignored, -⟩ := hhas
  have hid := Row.need_of_has hid (Document.readInt64_ofInt u.commandId)
  have hout := Row.need_of_has hout (readBytes_bytesDocument u.out)
  have hpackage := Row.getD_of_has hpackage (readBytes_bytesDocument u.package)
    List.isEmpty_iff.1
  have hignored := Row.need_of_has hignored (Document.readBool_ofBool u.ignored)
  simp only [read, hrow, hid, hout, hpackage, hignored, bind, Except.bind, pure, Except.pure]

theorem decode_encode (u : CaptureUpload) : decode u.encode = .ok u := by
  rw [decode, encode, decode_bytes u.isValid_document, read_variant u.variant_document]

/-! ### From a text to an upload -/

/-- The member of a text under a name. -/
def member? (name : String) (text : Bytes) : Option Document :=
  shape.value? name (Document.ofTokens (tokens text)).1

theorem package_member_encode (u : CaptureUpload) :
    member? "Pkg" u.encode = none ↔ u.package = [] := by
  have hparse := Document.ofTokens_of_spells u.isValid_document (spells_flatMap u.document.tokens)
  rw [member?, encode, Document.bytes, hparse, document, Shape.value?_ofMembers]
  cases u.package with
  | nil => simp
  | cons b package => simp

theorem read_eq_ok {d : Document} {u : CaptureUpload} (h : read d = .ok u) :
    ∃ row, shape.read d = .ok row ∧ row.need "Out" readBytes = .ok u.out ∧
      row.getD "Pkg" readBytes [] = .ok u.package := by
  obtain ⟨row, hrow, h⟩ := bind_eq_ok.1 h
  obtain ⟨commandId, -, h⟩ := bind_eq_ok.1 h
  obtain ⟨out, hout, h⟩ := bind_eq_ok.1 h
  obtain ⟨package, hpackage, h⟩ := bind_eq_ok.1 h
  obtain ⟨ignored, -, ⟨⟩⟩ := bind_eq_ok.1 h
  exact ⟨row, hrow, hout, hpackage⟩

/-- Where a text is taken for an upload, its strings are the base64 of the bytes. -/
theorem members_of_decode {text : Bytes} {u : CaptureUpload} (h : decode text = .ok u) :
    (∃ d, member? "Out" text = some d ∧ readBytes d = .ok u.out) ∧
    (∀ d, member? "Pkg" text = some d → readBytes d = .ok u.package) ∧
    (member? "Pkg" text = none → u.package = []) := by
  obtain ⟨d, hparse, hread⟩ := decode_eq_ok.1 h
  obtain ⟨row, hrow, hout, hpackage⟩ := read_eq_ok hread
  have hmember : ∀ name ∈ shape.names, row.lookup name = member? name text := by
    intro name hname
    rw [Shape.lookup_of_read hrow hname, member?, hparse]
  rw [Row.need, hmember "Out" (by decide)] at hout
  rw [Row.getD, hmember "Pkg" (by decide)] at hpackage
  refine ⟨?_, fun d hd => ?_, fun hnone => ?_⟩
  · split at hout
    · next d hd => exact ⟨d, hd, hout⟩
    · cases hout
  · rwa [hd] at hpackage
  · rw [hnone] at hpackage
    exact (Except.ok.inj hpackage).symm

/-- Uploads are lossless both ways. An upload comes back from its text, which is without a package
if there is none. In any text that is taken for an upload the strings are the padded base64 of the
bytes, so that equal bytes are never written as different strings. -/
theorem lossless :
    (∀ u : CaptureUpload,
      decode u.encode = .ok u ∧ (member? "Pkg" u.encode = none ↔ u.package = [])) ∧
    (∀ (body : Bytes) (u : CaptureUpload), decode body = .ok u →
      (∃ d text, member? "Out" body = some d ∧ d.readString = .ok text ∧
        Utf8.ofString text = Base64.encode u.out) ∧
      (∀ d, member? "Pkg" body = some d → ∃ text, d.readString = .ok text ∧
        Utf8.ofString text = Base64.encode u.package) ∧
      (member? "Pkg" body = none → u.package = [])) ∧
    ∀ (body body' : Bytes) (u u' : CaptureUpload) (d d' : Document) (text text' : String),
      decode body = .ok u → decode body' = .ok u' → u.out = u'.out →
      member? "Out" body = some d → member? "Out" body' = some d' →
      d.readString = .ok text → d'.readString = .ok text' → text = text' := by
  have hout : ∀ (body : Bytes) (u : CaptureUpload), decode body = .ok u →
      ∃ d text, member? "Out" body = some d ∧ d.readString = .ok text ∧
        Utf8.ofString text = Base64.encode u.out := by
    intro body u h
    obtain ⟨⟨d, hd, hbytes⟩, -, -⟩ := members_of_decode h
    obtain ⟨text, htext, hencode⟩ := readBytes_eq_ok.1 hbytes
    exact ⟨d, text, hd, htext, hencode⟩
  refine ⟨fun u => ⟨u.decode_encode, u.package_member_encode⟩, fun body u h => ?_, ?_⟩
  · obtain ⟨-, hpackage, habsent⟩ := members_of_decode h
    exact ⟨hout body u h, fun d hd => readBytes_eq_ok.1 (hpackage d hd), habsent⟩
  · intro body body' u u' d d' text text' h h' heq hd hd' htext htext'
    obtain ⟨_, _, hmember, hread, hencode⟩ := hout body u h
    obtain ⟨_, _, hmember', hread', hencode'⟩ := hout body' u' h'
    cases hd.symm.trans hmember
    cases hd'.symm.trans hmember'
    cases htext.symm.trans hread
    cases htext'.symm.trans hread'
    exact Utf8.ofString_inj (by rw [hencode, hencode', heq])

theorem lossless_escaped :
    let u : CaptureUpload := ⟨-7, [1, 2], [255], true⟩
    let body := Utf8.ofString ("\x7b \"Ignored\":true, \"Out\" : \"\\u0041QI=\", " ++
      "\"more\":[1e999,\x7b\x7d],\"P\\u006bg\":\"\\/w==\",\"CommandId\":-7\x7d")
    decode body = .ok u ∧ decode u.encode = .ok u ∧ member? "Pkg" u.encode ≠ none ∧
      ∃ d text, member? "Out" body = some d ∧ d.readString = .ok text ∧
        Utf8.ofString text = Base64.encode u.out ∧
        ∀ d' text', member? "Out" u.encode = some d' → d'.readString = .ok text' →
          text = text' := by
  intro u body
  have h : decode body = .ok u := by decide +kernel
  obtain ⟨hencode, hpackage⟩ := lossless.1 u
  obtain ⟨⟨d, text, hd, htext, hout⟩, -⟩ := lossless.2.1 body u h
  refine ⟨h, hencode, fun hnone => ?_, d, text, hd, htext, hout, fun d' text' hd' htext' => ?_⟩
  · cases hpackage.1 hnone
  · exact lossless.2.2 body u.encode u u d d' text text' h hencode rfl hd hd' htext htext'

end CaptureUpload

end Telemetry
