import Telemetry.Proofs.Dictionary
import Telemetry.Proofs.Json.Number
import Telemetry.Proofs.Json.Record
import Telemetry.Stats.Upload

/-!
Stats uploads come back from their text.

Headers and counts are dictionaries, which are written in no particular order. Whatever the orders
are, the text is read as the upload it was written from.
-/
namespace Telemetry

open Json

/-! ### Outcomes -/

namespace RequestOutcome

theorem readHeaders_headersDocument {headers : List (String × String)}
    {d : Dictionary String String} (h : headers.Perm d.entries) :
    readHeaders (headersDocument headers) = .ok d := by
  have hentries := readEntries_ofMembers Quotation.read_pieces Document.readString_ofString headers
  rw [readHeaders, headersDocument, hentries, Except.map, Dictionary.ofList_of_perm h]

/-- The members of an outcome. -/
def entries (headers : List (String × String)) (o : RequestOutcome) : List Entry :=
  [⟨"Path", .ofString o.path, false⟩, ⟨"Method", .ofString o.method, false⟩,
    ⟨"StatusCode", .ofInt (Int.ofNat o.status.toNat), false⟩,
    ⟨"Time", .ofInt (Int.ofNat o.elapsed.toNat), false⟩, ⟨"SpanId", .ofInt o.span.toInt, false⟩,
    ⟨"ParentSpanId", .ofInt o.parentSpan.toInt, false⟩, ⟨"IsProblem", .ofBool o.isProblem, false⟩,
    ⟨"Headers", headersDocument headers, false⟩]

theorem fits_entries {o : RequestOutcome} {headers : List (String × String)}
    (h : headers.Perm o.headers.entries) : shape.Fits (o.entries headers) :=
  .cons ⟨rfl, Field.check_of (Document.readString_ofString o.path), fun _ => rfl⟩ <|
  .cons ⟨rfl, Field.check_of (Document.readString_ofString o.method), fun _ => rfl⟩ <|
  .cons ⟨rfl, Field.check_of (Document.readUInt16_ofInt o.status), fun _ => rfl⟩ <|
  .cons ⟨rfl, Field.check_of (Document.readUInt64_ofInt o.elapsed), fun _ => rfl⟩ <|
  .cons ⟨rfl, Field.check_of (Document.readInt64_ofInt o.span), fun _ => rfl⟩ <|
  .cons ⟨rfl, Field.check_of (Document.readInt64_ofInt o.parentSpan), fun _ => rfl⟩ <|
  .cons ⟨rfl, Field.check_of (Document.readBool_ofBool o.isProblem), fun _ => rfl⟩ <|
  .cons ⟨rfl, Field.check_of (readHeaders_headersDocument h), fun _ => rfl⟩ .nil

theorem variant_documentIn (headers : List (String × String)) (o : RequestOutcome) :
    shape.Variant (o.entries headers) (o.documentIn headers) :=
  shape.variant_self _

theorem nodup_names : shape.names.Nodup := by decide

theorem read_documentIn {o : RequestOutcome} {headers : List (String × String)}
    (h : headers.Perm o.headers.entries) : read (o.documentIn headers) = .ok o := by
  obtain ⟨row, hrow, hhas⟩ :=
    Shape.read_variant nodup_names (fits_entries h) (o.variant_documentIn headers)
  simp only [entries, List.forall_mem_cons] at hhas
  obtain ⟨hpath, hmethod, hstatus, helapsed, hspan, hparentSpan, hisProblem, hheaders, -⟩ := hhas
  have hpath := Row.need_of_has hpath (Document.readString_ofString o.path)
  have hmethod := Row.need_of_has hmethod (Document.readString_ofString o.method)
  have hstatus := Row.need_of_has hstatus (Document.readUInt16_ofInt o.status)
  have helapsed := Row.need_of_has helapsed (Document.readUInt64_ofInt o.elapsed)
  have hspan := Row.need_of_has hspan (Document.readInt64_ofInt o.span)
  have hparentSpan := Row.need_of_has hparentSpan (Document.readInt64_ofInt o.parentSpan)
  have hisProblem := Row.need_of_has hisProblem (Document.readBool_ofBool o.isProblem)
  have hheaders := Row.need_of_has hheaders (readHeaders_headersDocument h)
  simp only [read, hrow, hpath, hmethod, hstatus, helapsed, hspan, hparentSpan, hisProblem,
    hheaders, bind, Except.bind, pure, Except.pure]

theorem isValid_documentIn (headers : List (String × String)) (o : RequestOutcome) :
    (o.documentIn headers).IsValid := by
  have hheaders : (headersDocument headers).IsValid := isValid_ofMembers fun m hm => by
    obtain ⟨⟨name, value⟩, -, rfl⟩ := List.mem_map.1 hm
    exact Document.isValid_ofString value
  refine isValid_ofMembers fun m hm => ?_
  simp only [List.mem_cons, List.not_mem_nil, or_false] at hm
  rcases hm with rfl | rfl | rfl | rfl | rfl | rfl | rfl | rfl
  · exact Document.isValid_ofString _
  · exact Document.isValid_ofString _
  · exact Document.isValid_ofInt _
  · exact Document.isValid_ofInt _
  · exact Document.isValid_ofInt _
  · exact Document.isValid_ofInt _
  · exact Document.isValid_ofBool _
  · exact hheaders

/-- A wire form of an outcome: the headers are in some order. -/
def Written (o : RequestOutcome) (d : Document) : Prop :=
  ∃ headers : List (String × String), headers.Perm o.headers.entries ∧ d = o.documentIn headers

theorem isValid_of_written {o : RequestOutcome} {d : Document} (h : o.Written d) : d.IsValid := by
  obtain ⟨headers, -, rfl⟩ := h
  exact isValid_documentIn headers o

theorem read_of_written {o : RequestOutcome} {d : Document} (h : o.Written d) :
    read d = .ok o := by
  obtain ⟨headers, hperm, rfl⟩ := h
  exact read_documentIn hperm

end RequestOutcome

/-! ### Uploads -/

namespace StatsUpload

theorem readCounts_countsDocument {counts : List (UInt16 × UInt64)}
    {d : Dictionary UInt16 UInt64} (h : counts.Perm d.entries) :
    readCounts (countsDocument counts) = .ok d := by
  have hentries := readEntries_ofMembers Quotation.readNumeral_uint16 Document.readUInt64_ofInt
    counts
  rw [readCounts, countsDocument, hentries, Except.map, Dictionary.ofList_of_perm h]

theorem isValid_countsDocument (counts : List (UInt16 × UInt64)) :
    (countsDocument counts).IsValid := by
  refine isValid_ofMembers fun m hm => ?_
  obtain ⟨⟨status, count⟩, -, rfl⟩ := List.mem_map.1 hm
  exact Document.isValid_ofInt _

/-- The members of an upload. -/
def entries (requests : List Document) (counts : List (UInt16 × UInt64)) : List Entry :=
  [⟨"HTTPs", .ofList requests, false⟩, ⟨"RPMs", countsDocument counts, false⟩]

/-- A wire form of an upload: the headers of each outcome and the counts are in some order. -/
def Written (u : StatsUpload) (d : Document) : Prop :=
  ∃ requests counts, List.Forall₂ RequestOutcome.Written u.requests requests ∧
    counts.Perm u.statusCodes.entries ∧ d = documentIn requests counts

theorem written_document (u : StatsUpload) : u.Written u.document := by
  refine ⟨_, _, ?_, .refl _, rfl⟩
  rw [List.forall₂_map_right_iff, List.forall₂_same]
  exact fun o _ => ⟨o.headers.entries, .refl _, rfl⟩

theorem nodup_names : shape.names.Nodup := by decide

theorem variant_documentIn (requests : List Document) (counts : List (UInt16 × UInt64)) :
    shape.Variant (entries requests counts) (documentIn requests counts) :=
  shape.variant_self _

theorem read_of_written {u : StatsUpload} {d : Document} (h : u.Written d) : read d = .ok u := by
  obtain ⟨requests, counts, hrequests, hcounts, rfl⟩ := h
  have hlist : Document.readList RequestOutcome.read (.ofList requests) = .ok u.requests :=
    readList_ofList (hrequests.imp fun _ _ => RequestOutcome.read_of_written)
  have hmap := readCounts_countsDocument hcounts
  have hfits : shape.Fits (entries requests counts) :=
    .cons ⟨rfl, Field.check_of hlist, fun _ => rfl⟩ <|
    .cons ⟨rfl, Field.check_of hmap, fun _ => rfl⟩ .nil
  obtain ⟨row, hrow, hhas⟩ :=
    Shape.read_variant nodup_names hfits (variant_documentIn requests counts)
  simp only [entries, List.forall_mem_cons] at hhas
  obtain ⟨houtcomes, hstatusCodes, -⟩ := hhas
  have houtcomes := Row.need_of_has houtcomes hlist
  have hstatusCodes := Row.need_of_has hstatusCodes hmap
  simp only [read, hrow, houtcomes, hstatusCodes, bind, Except.bind, pure, Except.pure]

theorem isValid_of_written {u : StatsUpload} {d : Document} (h : u.Written d) : d.IsValid := by
  obtain ⟨requests, counts, hrequests, -, rfl⟩ := h
  refine isValid_ofMembers fun m hm => ?_
  simp only [List.mem_cons, List.not_mem_nil, or_false] at hm
  rcases hm with rfl | rfl
  · exact isValid_ofList (fun _ _ => RequestOutcome.isValid_of_written) hrequests
  · exact isValid_countsDocument counts

theorem decode_of_written {u : StatsUpload} {d : Document} (h : u.Written d) :
    decode d.bytes = .ok u := by
  rw [decode, decode_bytes (isValid_of_written h), read_of_written h]

theorem decode_encode (u : StatsUpload) : decode u.encode = .ok u :=
  decode_of_written u.written_document

/-- An upload comes back from its text, and from every text that differs from it in the orders of
the dictionaries. -/
theorem round_trip (u : StatsUpload) :
    decode u.encode = .ok u ∧ ∀ d, u.Written d → decode d.bytes = .ok u :=
  ⟨u.decode_encode, fun _ => decode_of_written⟩

theorem round_trip_reordered :
    let o : RequestOutcome := ⟨"/\u00E9\"\\\n\u0001\u2028", "\u007F", 0, 18446744073709551615,
      -9223372036854775808, 9223372036854775807, true, .ofList [("a", ""), ("b", "\t")]⟩
    let u : StatsUpload := ⟨[o, o], .ofList [(0, 1), (9, 0), (65535, 18446744073709551615)]⟩
    let d := documentIn [o.documentIn [("b", "\t"), ("a", "")], o.document]
      [(65535, 18446744073709551615), (0, 1), (9, 0)]
    d.bytes ≠ u.encode ∧ decode d.bytes = .ok u := by
  intro o u d
  have hfirst : o.Written (o.documentIn [("b", "\t"), ("a", "")]) := ⟨_, by decide +kernel, rfl⟩
  have hsecond : o.Written o.document := ⟨_, .refl _, rfl⟩
  have hwritten : u.Written d :=
    ⟨_, _, .cons hfirst (.cons hsecond .nil), by decide +kernel, rfl⟩
  exact ⟨by decide +kernel, (round_trip u).2 d hwritten⟩

end StatsUpload

end Telemetry
