import Telemetry.Proofs.Client.Headers
import Telemetry.Proofs.Http.Fields
import Telemetry.Proofs.Text.Integer
import Telemetry.Request.Span

/-!
Spans that callers hand on.

A request names the span of its caller if the first value under the name of that header is a decimal
integer of 64 bits, and whatever else it has there it names none. The text of a span is such a
value, so a span that is handed on arrives.
-/
namespace Telemetry

open Http

/-- The first value that fields have for the span of the caller writes the number. -/
def NamesSpan (fields : List Field) (n : Int) : Prop :=
  ∃ numeral, Text.WritesInt numeral n ∧
    (valuesUnder fields "x-dpparentspanid".toList).head? = some (Text.Utf8.encode numeral)

theorem Http.HeaderValue.toChars?_eq_some_iff {value : HeaderValue} {text : List Char} :
    value.toChars? = some text ↔
      value.bytes = Text.Utf8.encode text ∧ ∀ c ∈ text, c.toNat < 0x7F := by
  have hbyte : ∀ b : UInt8, decide (b < 0x7F) = true ↔ b.toNat < 0x7F := fun b => by
    rw [decide_eq_true_iff, UInt8.lt_iff_toNat_lt]
    rfl
  simp only [toChars?, List.all_eq_true, hbyte, Option.ite_none_right_eq_some,
    Option.some_inj]
  constructor
  · rintro ⟨hascii, rfl⟩
    refine ⟨(Text.Utf8.encode_asciiChar fun b hb => Nat.lt_succ_of_lt (hascii b hb)).symm,
      fun c hc => ?_⟩
    obtain ⟨b, hb, rfl⟩ := List.mem_map.1 hc
    exact (Text.Utf8.toNat_asciiChar b (Nat.lt_succ_of_lt (hascii b hb))).trans_lt (hascii b hb)
  · rintro ⟨hbytes, hascii⟩
    have hnat : ∀ c ∈ text, (UInt8.ofNat c.toNat).toNat = c.toNat := fun c hc =>
      Text.Utf8.toNat_ofNat (Nat.lt_trans (hascii c hc) (by decide))
    rw [hbytes, Text.Utf8.encode_of_ascii fun c hc => Nat.lt_succ_of_lt (hascii c hc), List.map_map]
    refine ⟨List.forall_mem_map.2 fun c hc => (hnat c hc).trans_lt (hascii c hc),
      (List.map_congr_left fun c hc => ?_).trans (List.map_id text)⟩
    rw [Function.comp_apply, hnat c hc, Char.ofNat_toNat, id]

namespace Span

theorem ofValue?_eq_some_iff {value : HeaderValue} {span : Int64} :
    ofValue? value = some span ↔
      ∃ numeral, value.bytes = Text.Utf8.encode numeral ∧ Text.WritesInt numeral span.toInt := by
  have hread : ∀ text, (Text.readInt64 text).toOption = some span ↔
      Text.WritesInt text span.toInt := by
    intro text
    rw [← Text.readInt64_eq_ok_iff]
    cases Text.readInt64 text <;> simp [Except.toOption]
  simp only [ofValue?, Option.bind_eq_some_iff, hread,
    HeaderValue.toChars?_eq_some_iff]
  constructor
  · rintro ⟨numeral, ⟨hbytes, -⟩, hwrites⟩
    exact ⟨numeral, hbytes, hwrites⟩
  · rintro ⟨numeral, hbytes, hwrites⟩
    exact ⟨numeral, ⟨hbytes, fun c hc => (hwrites.toNat_lt hc).2⟩, hwrites⟩

theorem bind_ofValue?_eq_some_iff {fields : List Field} {headers : Headers}
    (h : Headers.ofFields fields = .ok headers) {span : Int64} :
    (headers.get? parentHeader).bind ofValue? = some span ↔ NamesSpan fields span.toInt := by
  have hfirst : (headers.get? parentHeader).map HeaderValue.bytes =
      (valuesUnder fields "x-dpparentspanid".toList).head? := by
    have hvalues := congrArg List.head? (Headers.getAll_ofFields h parentHeader)
    rwa [List.head?_map] at hvalues
  simp only [NamesSpan, ← hfirst, Option.bind_eq_some_iff, ofValue?_eq_some_iff,
    Option.map_eq_some_iff]
  constructor
  · rintro ⟨value, hvalue, numeral, hbytes, hwrites⟩
    exact ⟨numeral, hwrites, value, hvalue, hbytes⟩
  · rintro ⟨numeral, hwrites, value, hvalue, hbytes⟩
    exact ⟨value, hvalue, numeral, hbytes, hwrites⟩

theorem parentOf_of_namesSpan {fields : List Field} {headers : Headers}
    (h : Headers.ofFields fields = .ok headers) {span : Int64}
    (hnames : NamesSpan fields span.toInt) : parentOf headers = span := by
  rw [parentOf, (bind_ofValue?_eq_some_iff h).2 hnames, Option.getD_some]

theorem parentOf_of_not_namesSpan {fields : List Field} {headers : Headers}
    (h : Headers.ofFields fields = .ok headers)
    (hnone : ∀ span : Int64, ¬ NamesSpan fields span.toInt) : parentOf headers = 0 := by
  cases hspan : (headers.get? parentHeader).bind ofValue? with
  | none => rw [parentOf, hspan, Option.getD_none]
  | some span => exact absurd ((bind_ofValue?_eq_some_iff h).1 hspan) (hnone span)

/-! ### The text of a span -/

/-- A field that hands a span on, under the name of the header in any letter case. -/
def field (name : List Char) (span : Int64) : Field := ⟨name, Text.Utf8.ofString (text span)⟩

theorem writesInt_text (span : Int64) : Text.WritesInt (text span).toList span.toInt := by
  rw [text, String.toList_ofList]
  exact Text.writesInt_decimalInt span.toInt

theorem legal_field {name : List Char} (hname : name.map Char.toLower = parentHeader.chars)
    (span : Int64) : (field name span).Legal := by
  refine ⟨fun hnil => ?_, fun c hc => ?_, List.all_eq_true.1 (all_isValueByte_iff.2 fun c hc => ?_)⟩
  · rw [show name = [] from hnil, List.map_nil] at hname
    exact parentHeader.valid.1 hname.symm
  · refine isTokenChar_of_toLower (parentHeader.token ?_)
    rw [← hname]
    exact List.mem_map_of_mem hc
  · obtain ⟨hlow, hhigh⟩ := (writesInt_text span).toNat_lt hc
    exact .inr ⟨hlow, Nat.ne_of_lt hhigh⟩

theorem namesSpan_field {before after : List Field} {name : List Char}
    (hname : name.map Char.toLower = parentHeader.chars)
    (hbefore : ∀ f ∈ before, f.key ≠ parentHeader.chars) (span : Int64) :
    NamesSpan (before ++ field name span :: after) span.toInt := by
  refine ⟨(text span).toList, writesInt_text span, ?_⟩
  have hnone : before.filter (fun f => f.key = parentHeader.chars) = [] :=
    List.filter_eq_nil_iff.2 (by simpa using hbefore)
  have hfield : (field name span).key = parentHeader.chars := hname
  change (valuesUnder _ parentHeader.chars).head? = _
  rw [valuesUnder, List.filter_append, hnone, List.nil_append,
    List.filter_cons_of_pos (by simpa using hfield)]
  rfl

end Span

/-- The span that a request's caller names, for all fields of which its headers are made: the number
that the first value of the header writes, if it is a decimal integer of 64 bits with an optional
sign, and zero otherwise. So a request in which the text of a span is the first value of that header
has this span as its parent, whatever else it has. -/
theorem parentOf_propagates :
    (∀ fields : List Field, (∀ f ∈ fields, f.Legal) →
      ∃ headers, Headers.ofFields fields = .ok headers ∧
        (∀ n : Int, -2 ^ 63 ≤ n → n < 2 ^ 63 → NamesSpan fields n →
          (Span.parentOf headers).toInt = n) ∧
        ((∀ n : Int, -2 ^ 63 ≤ n → n < 2 ^ 63 → ¬ NamesSpan fields n) →
          Span.parentOf headers = 0)) ∧
    (∀ headers : Headers, ∃ fields : List Field,
      (∀ f ∈ fields, f.Legal) ∧ Headers.ofFields fields = .ok headers) ∧
    ∀ (source : SpanSource) (k : Nat) (span : Int64) (name : List Char)
      (before after : List Field), name.map Char.toLower = "x-dpparentspanid".toList →
      (∀ f ∈ before ++ after, f.Legal) → (∀ f ∈ before, f.key ≠ "x-dpparentspanid".toList) →
      ∃ headers, Headers.ofFields
          (before ++ ⟨name, Text.Utf8.ofString (Span.text span)⟩ :: after) = .ok headers ∧
        source.draw k headers = ⟨source.ids k, span⟩ := by
  refine ⟨fun fields hlegal => ?_, Headers.exists_fields, ?_⟩
  · obtain ⟨headers, hheaders⟩ := Headers.exists_ofFields hlegal
    refine ⟨headers, hheaders, fun n hlow hhigh hnames => ?_, fun hnone => ?_⟩
    · have hn : (Int64.ofInt n).toInt = n := Int64.toInt_ofInt_of_le hlow hhigh
      rw [Span.parentOf_of_namesSpan hheaders (hn.symm ▸ hnames), hn]
    · exact Span.parentOf_of_not_namesSpan hheaders fun span =>
        hnone span.toInt span.le_toInt span.toInt_lt
  · intro source k span name before after hname hlegal hbefore
    have hall : ∀ f ∈ before ++ Span.field name span :: after, f.Legal := by
      simp only [List.forall_mem_append, List.forall_mem_cons] at hlegal ⊢
      exact ⟨hlegal.1, Span.legal_field hname span, hlegal.2⟩
    obtain ⟨headers, hheaders⟩ := Headers.exists_ofFields hall
    refine ⟨headers, hheaders, ?_⟩
    rw [SpanSource.draw,
      Span.parentOf_of_namesSpan hheaders (Span.namesSpan_field hname hbefore span)]

/-- A later value does not count, a number beyond the 64 bits names no span, and the least span
arrives. -/
theorem parentOf_propagates_first :
    (∃ headers, Headers.ofFields [⟨"X-DPParentSpanId".toList, Text.Utf8.ofString "+0042"⟩,
        ⟨"x-dpparentspanid".toList, Text.Utf8.ofString "7"⟩] = .ok headers ∧
      (Span.parentOf headers).toInt = 42) ∧
    (∃ headers, Headers.ofFields [⟨"x-dpparentspanid".toList,
        Text.Utf8.ofString "9223372036854775808"⟩] = .ok headers ∧ Span.parentOf headers = 0) ∧
    ∃ headers, Headers.ofFields [⟨"Host".toList, Text.Utf8.ofString "localhost"⟩,
        ⟨"X-DpParentSpanId".toList, Text.Utf8.ofString (Span.text Int64.minValue)⟩,
        ⟨"x-dpparentspanid".toList, Text.Utf8.ofString "7"⟩] = .ok headers ∧
      (SpanSource.seeded 0).draw 0 headers = ⟨(SpanSource.seeded 0).ids 0, Int64.minValue⟩ := by
  obtain ⟨hparent, -, harrives⟩ := parentOf_propagates
  refine ⟨?_, ?_, harrives _ 0 Int64.minValue "X-DpParentSpanId".toList
    [⟨"Host".toList, Text.Utf8.ofString "localhost"⟩]
    [⟨"x-dpparentspanid".toList, Text.Utf8.ofString "7"⟩]
    (by decide +kernel) (by decide +kernel) (by decide +kernel)⟩
  · obtain ⟨headers, hheaders, hnumber, -⟩ :=
      hparent [⟨"X-DPParentSpanId".toList, Text.Utf8.ofString "+0042"⟩,
        ⟨"x-dpparentspanid".toList, Text.Utf8.ofString "7"⟩] (by decide +kernel)
    have hwrites : Text.WritesNat ['+', '0', '0', '4', '2'] 42 :=
      .plus ⟨by simp, by simp, by decide⟩
    exact ⟨headers, hheaders, hnumber 42 (by decide) (by decide)
      ⟨_, .natural hwrites, by decide +kernel⟩⟩
  · obtain ⟨headers, hheaders, -, hnone⟩ := hparent
      [⟨"x-dpparentspanid".toList, Text.Utf8.ofString "9223372036854775808"⟩] (by decide +kernel)
    refine ⟨headers, hheaders, hnone fun n hlow hhigh => ?_⟩
    rintro ⟨numeral, hwrites, hfirst⟩
    have hnumeral : numeral = "9223372036854775808".toList := by
      refine Option.some_inj.1 ((Text.Utf8.decode_encode numeral).symm.trans ?_)
      rw [← Option.some_inj.1 hfirst]
      decide +kernel
    have hn : (Int64.ofInt n).toInt = n := Int64.toInt_ofInt_of_le hlow hhigh
    have hread := Text.readInt64_eq_ok_iff.2 (hn.symm ▸ hwrites)
    have hbeyond : Text.readInt64 "9223372036854775808".toList = .error .tooLarge := by
      decide +kernel
    rw [hnumeral, hbeyond] at hread
    cases hread

end Telemetry
