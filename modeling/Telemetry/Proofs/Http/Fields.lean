import Mathlib
import Telemetry.Http.Header
import Telemetry.Proofs.Failure

/-!
Header maps from their fields.

Every header map comes of appending fields one after the other (`Headers.exists_fields`), and
fields with legal names and values can always be appended (`Headers.exists_ofFields`). What a map
has under a name is what the fields have under it in any letter case (`Headers.getAll_ofFields`), in
the order of the fields.
-/
namespace Telemetry.Http

/-- A header as it is appended: a name in any letter case, and the bytes of a value. -/
structure Field where
  name : List Char
  value : Bytes
  deriving DecidableEq, Repr

namespace Field

/-- The name in lower case, by which names are told apart. -/
def key (f : Field) : List Char := f.name.map Char.toLower

/-- The name is a token, and the value has only bytes that a value may have. -/
structure Legal (f : Field) : Prop where
  named : f.name ≠ []
  token : ∀ c ∈ f.name, isTokenChar c = true
  value : ∀ b ∈ f.value, isValueByte b = true

instance (f : Field) : Decidable f.Legal :=
  decidable_of_iff (f.name ≠ [] ∧ f.name.all isTokenChar = true ∧ f.value.all isValueByte = true)
    ⟨fun h => ⟨h.1, List.all_eq_true.1 h.2.1, List.all_eq_true.1 h.2.2⟩,
      fun h => ⟨h.named, List.all_eq_true.2 h.token, List.all_eq_true.2 h.value⟩⟩

end Field

/-- The values that fields have under a name, in the order of the fields. -/
def valuesUnder (fields : List Field) (key : List Char) : List Bytes :=
  (fields.filter fun f => f.key = key).map Field.value

namespace Headers

def appendField (hs : Headers) (f : Field) : Except HeaderError Headers :=
  match HeaderName.ofChars? f.name with
  | none => .error .name
  | some name => (HeaderValue.ofBytes f.value).map fun value => hs.append name value

/-- The header map to which the fields have been appended one after the other. -/
def ofFields (fields : List Field) : Except HeaderError Headers :=
  fields.foldlM appendField []

end Headers

/-! ### Characters of names -/

theorem toNat_lt_of_isTokenChar {c : Char} (hc : isTokenChar c = true) : c.toNat < 128 := by
  rcases Bool.or_eq_true_iff.1 hc with hc | hc
  · simp only [Char.isAlphanum, Char.isAlpha, Char.isUpper, Char.isLower, Char.isDigit,
      Bool.or_eq_true, Bool.and_eq_true, decide_eq_true_eq, UInt32.le_iff_toNat_le] at hc
    change ((65 ≤ c.toNat ∧ c.toNat ≤ 90) ∨ (97 ≤ c.toNat ∧ c.toNat ≤ 122)) ∨
      (48 ≤ c.toNat ∧ c.toNat ≤ 57) at hc
    omega
  · have hmarks : ∀ d ∈ "!#$%&'*+-.^_`|~".toList, d.toNat < 128 := by simp
    exact hmarks c (List.contains_iff_mem.1 hc)

theorem isNameChar_toLower {c : Char} (hc : isTokenChar c = true) :
    isNameChar c.toLower = true := by
  have hlower : ∀ n < 128, isTokenChar (Char.ofNat n) = true →
      isNameChar (Char.ofNat n).toLower = true := by decide +kernel
  rw [← Char.ofNat_toNat c] at hc ⊢
  exact hlower c.toNat (toNat_lt_of_isTokenChar (by rwa [Char.ofNat_toNat] at hc)) hc

theorem isTokenChar_of_toLower {c : Char} (hc : isTokenChar c.toLower = true) :
    isTokenChar c = true := by
  by_cases hupper : c.isUpper = true
  · rw [isTokenChar, Char.isAlphanum, Char.isAlpha, hupper, Bool.true_or, Bool.true_or,
      Bool.true_or]
  · rwa [Char.toLower_eq_of_not_isUpper hupper] at hc

namespace HeaderName

theorem token {name : HeaderName} {c : Char} (hc : c ∈ name.chars) : isTokenChar c = true :=
  (Bool.and_eq_true_iff.1 (List.all_eq_true.1 name.valid.2 c hc)).1

theorem map_toLower_chars (name : HeaderName) : name.chars.map Char.toLower = name.chars := by
  refine (List.map_congr_left fun c hc => ?_).trans (List.map_id _)
  obtain ⟨-, hupper⟩ := Bool.and_eq_true_iff.1 (List.all_eq_true.1 name.valid.2 c hc)
  exact Char.toLower_eq_of_not_isUpper (by simpa using hupper)

theorem ext_chars {name other : HeaderName} (h : name.chars = other.chars) : name = other := by
  cases name
  cases other
  cases h
  rfl

theorem ofChars?_eq_some_iff {chars : List Char} {name : HeaderName} :
    ofChars? chars = some name ↔ chars.map Char.toLower = name.chars := by
  simp only [ofChars?]
  constructor
  · intro h
    split at h
    · cases h
      rfl
    · cases h
  · intro h
    have hvalid : chars.map Char.toLower ≠ [] ∧
        (chars.map Char.toLower).all isNameChar = true := by
      rw [h]
      exact name.valid
    rw [dif_pos hvalid]
    exact congrArg some (ext_chars h)

end HeaderName

theorem HeaderValue.bytes_injective : Function.Injective HeaderValue.bytes := by
  rintro ⟨bytes, _⟩ ⟨other, _⟩ rfl
  rfl

theorem HeaderValue.ofBytes_eq_ok_iff {bytes : Bytes} {value : HeaderValue} :
    HeaderValue.ofBytes bytes = .ok value ↔ bytes = value.bytes := by
  unfold HeaderValue.ofBytes
  constructor
  · intro h
    split at h
    · cases h
      rfl
    · cases h
  · rintro rfl
    rw [dif_pos value.valid]

/-! ### Names of header maps -/

namespace Headers

theorem mem_names {hs : Headers} {name : HeaderName} :
    name ∈ hs.names ↔ ∃ h ∈ hs, h.1 = name := by
  induction hs with
  | nil => simp [names]
  | cons h hs ih =>
    rw [names, List.mem_cons, List.mem_filter, ih, List.exists_mem_cons_iff]
    by_cases hname : h.1 = name
    · simp [hname]
    · simp [hname, Ne.symm hname]

theorem mem_names_iff_getAll {hs : Headers} {name : HeaderName} :
    name ∈ hs.names ↔ hs.getAll name ≠ [] := by
  rw [mem_names, getAll, ne_eq, List.map_eq_nil_iff, List.filter_eq_nil_iff]
  simp

theorem nodup_names (hs : Headers) : hs.names.Nodup := by
  induction hs with
  | nil => exact .nil
  | cons h hs ih => exact List.nodup_cons.2 ⟨by simp, ih.filter _⟩

end Headers

/-! ### Header maps -/

namespace Headers

/-- What a field is stored as. -/
structure Stores (h : HeaderName × HeaderValue) (f : Field) : Prop where
  name : f.key = h.1.chars
  value : f.value = h.2.bytes

theorem appendField_eq_ok_iff {hs result : Headers} {f : Field} :
    hs.appendField f = .ok result ↔ ∃ h, Stores h f ∧ result = hs ++ [h] := by
  unfold appendField
  constructor
  · intro h
    split at h
    · cases h
    · next name hname =>
      obtain ⟨value, hvalue, rfl⟩ := map_eq_ok.1 h
      exact ⟨(name, value), ⟨HeaderName.ofChars?_eq_some_iff.1 hname,
        HeaderValue.ofBytes_eq_ok_iff.1 hvalue⟩, rfl⟩
  · rintro ⟨h, hstores, rfl⟩
    rw [HeaderName.ofChars?_eq_some_iff.2 hstores.name]
    exact map_eq_ok.2 ⟨h.2, HeaderValue.ofBytes_eq_ok_iff.2 hstores.value, rfl⟩

theorem foldlM_appendField {fields : List Field} {hs result : Headers} :
    fields.foldlM appendField hs = .ok result ↔
      ∃ more, List.Forall₂ Stores more fields ∧ result = hs ++ more := by
  -- whatever has been appended before stays as it is
  induction fields generalizing hs with
  | nil => simp [pure, Except.pure, eq_comm]
  | cons f fields ih =>
    rw [List.foldlM_cons, bind_eq_ok]
    constructor
    · rintro ⟨next, hfirst, hrest⟩
      obtain ⟨header, hstores, rfl⟩ := appendField_eq_ok_iff.1 hfirst
      obtain ⟨more, hmore, rfl⟩ := ih.1 hrest
      refine ⟨header :: more, .cons hstores hmore, ?_⟩
      rw [List.append_assoc, List.singleton_append]
    · rintro ⟨_, ⟨⟩ | @⟨header, _, more, _, hstores, hmore⟩, rfl⟩
      refine ⟨hs ++ [header], appendField_eq_ok_iff.2 ⟨header, hstores, rfl⟩,
        ih.2 ⟨more, hmore, ?_⟩⟩
      rw [List.append_assoc, List.singleton_append]

theorem ofFields_eq_ok_iff {fields : List Field} {headers : Headers} :
    ofFields fields = .ok headers ↔ List.Forall₂ Stores headers fields := by
  rw [ofFields, foldlM_appendField]
  simp

theorem exists_stores {f : Field} (hf : f.Legal) : ∃ h, Stores h f := by
  have hname : f.key ≠ [] ∧ f.key.all isNameChar = true := by
    refine ⟨fun hnil => hf.named (List.map_eq_nil_iff.1 hnil), List.all_eq_true.2 fun c hc => ?_⟩
    obtain ⟨d, hd, rfl⟩ := List.mem_map.1 hc
    exact isNameChar_toLower (hf.token d hd)
  exact ⟨(⟨f.key, hname⟩, ⟨f.value, List.all_eq_true.2 hf.value⟩), rfl, rfl⟩

/-- Legal fields make a header map. -/
theorem exists_ofFields {fields : List Field} (hlegal : ∀ f ∈ fields, f.Legal) :
    ∃ headers, ofFields fields = .ok headers := by
  simp only [ofFields_eq_ok_iff]
  induction fields with
  | nil => exact ⟨[], .nil⟩
  | cons f fields ih =>
    obtain ⟨hf, hlegal⟩ := List.forall_mem_cons.1 hlegal
    obtain ⟨header, hheader⟩ := exists_stores hf
    obtain ⟨headers, hheaders⟩ := ih hlegal
    exact ⟨header :: headers, .cons hheader hheaders⟩

/-- Every header map is that of some legal fields. -/
theorem exists_fields (headers : Headers) :
    ∃ fields : List Field, (∀ f ∈ fields, f.Legal) ∧ ofFields fields = .ok headers := by
  refine ⟨headers.map fun h => ⟨h.1.chars, h.2.bytes⟩, fun f hf => ?_, ?_⟩
  · obtain ⟨h, -, rfl⟩ := List.mem_map.1 hf
    exact ⟨h.1.valid.1, fun c hc => h.1.token hc, List.all_eq_true.1 h.2.valid⟩
  · rw [ofFields_eq_ok_iff, List.forall₂_map_right_iff]
    exact List.forall₂_same.2 fun h _ => ⟨h.1.map_toLower_chars, rfl⟩

variable {fields : List Field} {headers : Headers}

/-- A name has the values that the fields have under it. -/
theorem getAll_ofFields (h : ofFields fields = .ok headers) (name : HeaderName) :
    (headers.getAll name).map HeaderValue.bytes = valuesUnder fields name.chars := by
  induction ofFields_eq_ok_iff.1 h with
  | nil => rfl
  | @cons header f headers fields hstores hrest ih =>
    have ih := ih (ofFields_eq_ok_iff.2 hrest)
    have hkey : f.key = name.chars ↔ header.1 = name := by
      rw [hstores.name]
      exact ⟨HeaderName.ext_chars, fun h => h ▸ rfl⟩
    by_cases hname : header.1 = name
    · simpa [getAll, valuesUnder, hname, hkey.2 hname, hstores.value] using ih
    · have hother : f.key ≠ name.chars := fun h => hname (hkey.1 h)
      simpa [getAll, valuesUnder, hname, hother] using ih

/-- The names of a header map are those of its fields. -/
theorem exists_mem_names_iff (h : ofFields fields = .ok headers) {key : List Char} :
    (∃ name ∈ headers.names, name.chars = key) ↔ ∃ f ∈ fields, f.key = key := by
  have hstored : (∃ header ∈ headers, header.1.chars = key) ↔ ∃ f ∈ fields, f.key = key := by
    induction ofFields_eq_ok_iff.1 h with
    | nil => simp
    | cons hstores hrest ih =>
      rw [List.exists_mem_cons_iff, List.exists_mem_cons_iff, ih (ofFields_eq_ok_iff.2 hrest),
        hstores.name]
  simp only [mem_names, ← hstored]
  constructor
  · rintro ⟨_, ⟨header, hheader, rfl⟩, hkey⟩
    exact ⟨header, hheader, hkey⟩
  · rintro ⟨header, hheader, hkey⟩
    exact ⟨_, ⟨header, hheader, rfl⟩, hkey⟩

end Headers

end Telemetry.Http
