import Mathlib
import Telemetry.Proofs.Dictionary
import Telemetry.Proofs.Requests.HeaderKeys
import Telemetry.Proofs.Text.Pieces

/-!
Snapshots of headers.

A snapshot has one entry for each name of the headers, under the canonical form of the name. No two
names have the same one, so no entry takes the place of another, and what a snapshot shows under a
name are all the values that the name has, in their order. Nothing else about the order of the
headers matters.
-/
namespace Telemetry

open Http

/-- What a value is shown as: its characters, and U+FFFD in the place of each broken piece. -/
def ShownAs (value : Bytes) (text : String) : Prop :=
  ∃ read, Text.Utf8.Pieces value read ∧ text = String.ofList (read.map (·.getD '\uFFFD'))

/-- The name of a snapshot's entry in lower case. -/
def entryName (e : String × String) : List Char := e.1.toList.map Char.toLower

/-- The texts of values, separated by commas. -/
def ShowsAll (values : List Bytes) (text : String) : Prop :=
  ∃ texts, List.Forall₂ ShownAs values texts ∧ text = String.intercalate "," texts

/-- There is just one text that a value is shown as. -/
theorem shownAs_iff {value : Bytes} {text : String} :
    ShownAs value text ↔ text = Text.Utf8.toStringLossy value := by
  constructor
  · rintro ⟨read, hpieces, rfl⟩
    exact hpieces.toStringLossy_eq.symm
  · rintro rfl
    exact ⟨_, Text.Utf8.pieces_scan value, rfl⟩

namespace Span

/-- The entry of a name in a snapshot. -/
def entryOf (headers : Headers) (name : HeaderName) : String × String :=
  (String.ofList (canonical name.chars), joined (headers.getAll name))

theorem entryName_entryOf (headers : Headers) (name : HeaderName) :
    entryName (entryOf headers name) = name.chars := by
  rw [entryName, entryOf, String.toList_ofList, map_toLower_canonical_chars]

theorem showsAll_joined (values : List HeaderValue) :
    ShowsAll (values.map HeaderValue.bytes) (joined values) := by
  refine ⟨values.map HeaderValue.toStringLossy, ?_, rfl⟩
  rw [List.forall₂_map_left_iff, List.forall₂_map_right_iff]
  exact List.forall₂_same.2 fun value _ => shownAs_iff.2 rfl

/-- A snapshot has the entries of the names. -/
theorem entries_snapshot (headers : Headers) :
    (snapshot headers).entries.Perm (headers.names.map (entryOf headers)) := by
  -- an entry would replace another one only if two names had one canonical form
  refine Dictionary.ofList_perm (List.pairwise_map.2 ?_)
  refine headers.nodup_names.imp fun {name other} hne hkey => hne ?_
  exact canonical_chars_injective (String.ofList_injective hkey)

theorem mem_snapshot {headers : Headers} {e : String × String} :
    e ∈ (snapshot headers).entries ↔ ∃ name ∈ headers.names, entryOf headers name = e := by
  rw [(entries_snapshot headers).mem_iff, List.mem_map]

section Fields

variable {fields : List Field} {headers : Headers}

theorem existsUnique_entry (h : Headers.ofFields fields = .ok headers) {f : Field}
    (hf : f ∈ fields) : ∃! e, e ∈ (snapshot headers).entries ∧ entryName e = f.key := by
  obtain ⟨name, hname, hkey⟩ := (Headers.exists_mem_names_iff h).2 ⟨f, hf, rfl⟩
  refine ⟨entryOf headers name,
    ⟨mem_snapshot.2 ⟨name, hname, rfl⟩, by rw [entryName_entryOf, hkey]⟩, ?_⟩
  rintro e ⟨he, hename⟩
  obtain ⟨other, -, rfl⟩ := mem_snapshot.1 he
  rw [entryName_entryOf, ← hkey] at hename
  rw [HeaderName.ext_chars hename]

theorem entry_of_field (h : Headers.ofFields fields = .ok headers) {e : String × String}
    (he : e ∈ (snapshot headers).entries) :
    (∃ f ∈ fields, f.key = entryName e) ∧ ShowsAll (valuesUnder fields (entryName e)) e.2 := by
  obtain ⟨name, hname, rfl⟩ := mem_snapshot.1 he
  rw [entryName_entryOf, ← Headers.getAll_ofFields h]
  exact ⟨(Headers.exists_mem_names_iff h).1 ⟨name, hname, rfl⟩, showsAll_joined _⟩

end Fields

/-- What counts in the headers is what each name has. -/
theorem snapshot_congr {headers other : Headers}
    (h : ∀ name, headers.getAll name = other.getAll name) : snapshot headers = snapshot other := by
  have hnames : headers.names.Perm other.names := by
    rw [List.perm_ext_iff_of_nodup headers.nodup_names other.nodup_names]
    intro name
    rw [Headers.mem_names_iff_getAll, Headers.mem_names_iff_getAll, h name]
  have hentry : entryOf headers = entryOf other := by
    funext name
    rw [entryOf, entryOf, h name]
  refine Dictionary.ofList_of_perm ((hnames.map (entryOf headers)).trans ?_)
  rw [hentry]
  exact (entries_snapshot other).symm

end Span

/-- Fields of different names may change places. -/
theorem valuesUnder_swap {before after : List Field} {f g : Field} (hne : f.key ≠ g.key)
    (key : List Char) : valuesUnder (before ++ f :: g :: after) key =
      valuesUnder (before ++ g :: f :: after) key := by
  by_cases hf : f.key = key
  · have hg : g.key ≠ key := fun hg => hne (hf.trans hg.symm)
    simp [valuesUnder, hf, hg]
  · simp [valuesUnder, List.filter_cons, hf]

/-- A snapshot drops no header. For all fields of which headers are made, it has just one entry for
each name, different names have different entries, and an entry shows all values of its name in the
order of the fields, separated by commas. Fields in another order have the same snapshot if the
values of each name keep their order. -/
theorem snapshot_complete :
    (∀ fields : List Field, (∀ f ∈ fields, f.Legal) →
      ∃ headers, Headers.ofFields fields = .ok headers ∧
        (∀ f ∈ fields, ∃! e, e ∈ (Span.snapshot headers).entries ∧ entryName e = f.key) ∧
        ∀ e ∈ (Span.snapshot headers).entries, (∃ f ∈ fields, f.key = entryName e) ∧
          ShowsAll (valuesUnder fields (entryName e)) e.2) ∧
    (∀ f g : Field, f.Legal → g.Legal →
      Span.canonicalKey (String.ofList f.key) = Span.canonicalKey (String.ofList g.key) →
      f.key = g.key) ∧
    ∀ (fields other : List Field) (headers otherHeaders : Headers),
      Headers.ofFields fields = .ok headers → Headers.ofFields other = .ok otherHeaders →
      (∀ key, valuesUnder fields key = valuesUnder other key) →
      Span.snapshot headers = Span.snapshot otherHeaders := by
  refine ⟨fun fields hlegal => ?_, fun f g hf hg hkey => ?_, ?_⟩
  · obtain ⟨headers, hheaders⟩ := Headers.exists_ofFields hlegal
    exact ⟨headers, hheaders, fun f hf => Span.existsUnique_entry hheaders hf,
      fun e he => Span.entry_of_field hheaders he⟩
  · obtain ⟨header, hheader⟩ := Headers.exists_stores hf
    obtain ⟨other, hother⟩ := Headers.exists_stores hg
    rw [hheader.name, hother.name] at hkey ⊢
    rw [Span.canonicalKey, Span.canonicalKey, String.toList_ofList, String.toList_ofList] at hkey
    rw [Span.canonical_chars_injective (String.ofList_injective hkey)]
  · intro fields other headers otherHeaders h hother hvalues
    refine Span.snapshot_congr fun name => List.map_injective_iff.2 HeaderValue.bytes_injective ?_
    rw [Headers.getAll_ofFields h, Headers.getAll_ofFields hother, hvalues]

/-- Two values of one name around a value of another one, which is not UTF-8. -/
theorem snapshot_complete_between :
    ∃ headers, Headers.ofFields [⟨"Accept".toList, [97]⟩, ⟨"x-trace-id".toList, [0xE2, 0x82]⟩,
        ⟨"aCCEPT".toList, [98]⟩] = .ok headers ∧
      (∃! e, e ∈ (Span.snapshot headers).entries ∧ entryName e = "accept".toList) ∧
      Span.canonicalKey "accept" ≠ Span.canonicalKey "x-trace-id" ∧
      ∃ moved, Headers.ofFields [⟨"Accept".toList, [97]⟩, ⟨"aCCEPT".toList, [98]⟩,
          ⟨"x-trace-id".toList, [0xE2, 0x82]⟩] = .ok moved ∧
        Span.snapshot headers = Span.snapshot moved := by
  obtain ⟨hall, hkeys, horder⟩ := snapshot_complete
  generalize hfirst : (⟨"Accept".toList, [97]⟩ : Field) = first
  generalize htrace : (⟨"x-trace-id".toList, [0xE2, 0x82]⟩ : Field) = trace
  generalize hsecond : (⟨"aCCEPT".toList, [98]⟩ : Field) = second
  have hlegal : first.Legal ∧ trace.Legal ∧ second.Legal := by
    rw [← hfirst, ← htrace, ← hsecond]
    decide +kernel
  have hkey : first.key = "accept".toList ∧ trace.key = "x-trace-id".toList ∧
      second.key = "accept".toList := by
    rw [← hfirst, ← htrace, ← hsecond]
    decide +kernel
  obtain ⟨headers, hheaders, hentry, -⟩ :=
    hall [first, trace, second] (by simpa using hlegal)
  obtain ⟨moved, hmoved, -⟩ := hall [first, second, trace] (by simpa [and_comm] using hlegal)
  refine ⟨headers, hheaders, ?_, ?_, moved, hmoved, horder _ _ _ _ hheaders hmoved fun key => ?_⟩
  · rw [← hkey.1]
    exact hentry first List.mem_cons_self
  · intro hsame
    have hnames := hkeys first trace hlegal.1 hlegal.2.1
    rw [hkey.1, hkey.2.1, String.ofList_toList, String.ofList_toList] at hnames
    exact absurd (hnames hsame) (by decide +kernel)
  · have hne : trace.key ≠ second.key := by
      rw [hkey.2.1, hkey.2.2]
      decide +kernel
    exact @valuesUnder_swap [first] [] trace second hne key

end Telemetry
