import Telemetry.Json.Reader
import Telemetry.Proofs.Failure
import Telemetry.Proofs.Json.Building

/-!
What a reader vouches for.

A reader that gives a value has been through its whole document, so the document is sound. A record
moreover stands in a container, whose closing token no text goes on after: of a text that decodes,
nothing but white space can be cut off at the end or added there (`isSpace_of_decode_append`).
-/
namespace Telemetry.Json

variable {ε α β κ : Type}

/-! ### Values passed over -/

theorem ArrayStop.skip_eq_ok {reason : ArrayStop} : reason.skip = .ok () ↔ reason = .closed := by
  cases reason <;> simp [ArrayStop.skip]

theorem ObjectStop.skip_eq_ok {reason : ObjectStop} : reason.skip = .ok () ↔ reason = .closed := by
  cases reason <;> simp [ObjectStop.skip]

mutual

theorem Document.skip_eq_ok : ∀ d : Document, d.skip = .ok () ↔ d.isSound = true
  | .word _ | .number _ | .text _ => ⟨fun _ => rfl, fun _ => rfl⟩
  | .array items => items.skip_eq_ok
  | .object members => members.skip_eq_ok
  | .absent | .faulty _ => by
    constructor <;> rintro ⟨⟩

theorem Items.skip_eq_ok : ∀ items : Items, items.skip = .ok () ↔ items.isSound = true
  | .stop reason => by
    rw [Items.skip, ArrayStop.skip_eq_ok, Items.isSound, decide_eq_true_eq]
  | .next item rest => by
    rw [Items.isSound, Bool.and_eq_true, ← item.skip_eq_ok, ← rest.skip_eq_ok, Items.skip]
    cases item.skip <;> simp

theorem Members.skip_eq_ok : ∀ members : Members, members.skip = .ok () ↔ members.isSound = true
  | .stop reason => by
    rw [Members.skip, ObjectStop.skip_eq_ok, Members.isSound, decide_eq_true_eq]
  | .next _ value rest => by
    rw [Members.isSound, Bool.and_eq_true, ← value.skip_eq_ok, ← rest.skip_eq_ok, Members.skip]
    cases value.skip <;> simp

end

/-! ### Values read -/

/-- A reader that gives values for sound documents only. -/
def Vouches (read : Document → Result α) : Prop := ∀ d a, read d = .ok a → d.isSound = true

theorem Vouches.map {read : Document → Result α} (h : Vouches read) (f : α → β) :
    Vouches fun d => (read d).map f := by
  intro d b hb
  obtain ⟨a, ha, -⟩ := map_eq_ok.1 hb
  exact h d a ha

theorem Vouches.bind {read : Document → Result α} (h : Vouches read) (f : α → Result β) :
    Vouches fun d => read d >>= f := by
  intro d b hb
  obtain ⟨a, ha, -⟩ := bind_eq_ok.1 hb
  exact h d a ha

theorem vouches_readString : Vouches Document.readString := by
  intro d s h
  cases d with
  | text => rfl
  | word | number | array | object | absent | faulty => cases h

theorem vouches_readBool : Vouches Document.readBool := by
  intro d b h
  cases d with
  | word => rfl
  | text | number | array | object | absent | faulty => cases h

theorem vouches_readNumber (expected : String) (convert : Numeral.Value → Result α) :
    Vouches (Document.readNumber expected convert) := by
  intro d x h
  cases d with
  | number => rfl
  | word | text | array | object | absent | faulty => cases h

theorem vouches_readInt64 : Vouches Document.readInt64 := vouches_readNumber _ _

theorem Vouches.readOptional {read : Document → Result α} (h : Vouches read) :
    Vouches (Document.readOptional read) := by
  intro d a ha
  unfold Document.readOptional at ha
  split at ha
  · rfl
  · exact h.map some _ a ha

theorem ArrayStop.closed_of_list {reason : ArrayStop} (h : reason.list = .ok ()) :
    reason = .closed := by
  cases reason <;> first | rfl | cases h

theorem Vouches.readAll {read : Document → Result α} (h : Vouches read) :
    ∀ (items : Items) (values : List α), items.readAll read = .ok values → items.isSound = true
  | .stop _, _, hvalues => by
    obtain ⟨⟨⟩, hstop, -⟩ := map_eq_ok.1 hvalues
    exact decide_eq_true (ArrayStop.closed_of_list hstop)
  | .next item rest, _, hvalues => by
    rw [Items.readAll] at hvalues
    obtain ⟨value, hvalue, hvalues⟩ := bind_eq_ok.1 hvalues
    obtain ⟨more, hmore, -⟩ := bind_eq_ok.1 hvalues
    rw [Items.isSound, h item value hvalue, h.readAll rest more hmore]
    rfl

theorem Vouches.readList {read : Document → Result α} (h : Vouches read) :
    Vouches (Document.readList read) := by
  intro d values hvalues
  cases d with
  | array items => exact h.readAll items values hvalues
  | word | text | number | object | absent | faulty => cases hvalues

/-! ### Records -/

namespace Shape

theorem isSound_of_readItems (s : Shape) {fields : List Field}
    (hfields : ∀ f ∈ fields, Vouches f.check) (index : Nat) (items : Items) (row : Row)
    (h : s.readItems index fields items = .ok row) : items.isSound = true := by
  induction fields generalizing index items row with
  | nil =>
    cases items with
    | next => cases h
    | stop reason =>
      cases reason with
      | closed => rfl
      | ended | noComma | commaThenClose | commaThenEnd => cases h
  | cons field fields ih =>
    cases items with
    | stop reason =>
      rw [readItems] at h
      obtain ⟨⟨⟩, hstop, -⟩ := bind_eq_ok.1 h
      exact decide_eq_true (ArrayStop.closed_of_list hstop)
    | next item rest =>
      rw [readItems] at h
      obtain ⟨⟨⟩, hitem, h⟩ := bind_eq_ok.1 h
      obtain ⟨row', hrest, -⟩ := bind_eq_ok.1 h
      rw [Items.isSound, hfields field List.mem_cons_self item () hitem,
        ih (fun f hf => hfields f (List.mem_cons_of_mem _ hf)) (index + 1) rest row' hrest]
      rfl

theorem closed_of_read {readKey : Quotation → Result κ} {reason : ObjectStop}
    (h : reason.read readKey = .ok ()) : reason = .closed := by
  cases reason with
  | closed => rfl
  | ended | noComma | commaThenClose | commaThenEnd | noKey => cases h
  | badKey key | noColon key =>
    obtain ⟨a, -, ⟨⟩⟩ := bind_eq_ok.1 h

/-- The names of the fields. -/
def names (s : Shape) : List String := s.fields.map Field.name

/-- What a key that is read says: the name between its quotes, and the field of that name. -/
theorem fieldOf_eq_ok {s : Shape} {seen : List String} {key : Quotation} {name : String}
    {field : Option Field} (h : s.fieldOf seen key = .ok (name, field)) :
    key.read = .ok name ∧ (field = none ∧ name ∉ s.names ∨
      ∃ f, field = some f ∧ f ∈ s.fields ∧ f.name = name) := by
  unfold fieldOf at h
  obtain ⟨name', hname, h⟩ := bind_eq_ok.1 h
  cases hfind : s.fields.find? fun field => field.name = name' with
  | none =>
    rw [hfind] at h
    cases h
    refine ⟨hname, Or.inl ⟨rfl, fun hmem => ?_⟩⟩
    obtain ⟨f, hf, rfl⟩ := List.mem_map.1 hmem
    exact List.find?_eq_none.1 hfind f hf (by simp)
  | some found =>
    rw [hfind] at h
    dsimp only at h
    split at h
    · cases h
    · cases h
      refine ⟨hname, Or.inr ⟨found, rfl, List.mem_of_find?_eq_some hfind, ?_⟩⟩
      simpa using List.find?_some hfind

theorem isSound_of_readMembers {s : Shape} (hs : ∀ f ∈ s.fields, Vouches f.check) :
    ∀ (members : Members) (seen : List String) (row : Row),
      s.readMembers seen members = .ok row → members.isSound = true
  | .stop _, _, _, h => by
    rw [readMembers] at h
    obtain ⟨⟨⟩, hstop, -⟩ := bind_eq_ok.1 h
    exact decide_eq_true (closed_of_read hstop)
  | .next key value rest, seen, row, h => by
    rw [readMembers] at h
    obtain ⟨⟨name, field⟩, hkey, h⟩ := bind_eq_ok.1 h
    rw [Members.isSound, Bool.and_eq_true]
    obtain ⟨-, ⟨rfl, -⟩ | ⟨f, rfl, hf, -⟩⟩ := fieldOf_eq_ok hkey
    · obtain ⟨⟨⟩, hskip, hrest⟩ := bind_eq_ok.1 h
      exact ⟨value.skip_eq_ok.1 hskip, isSound_of_readMembers hs rest seen row hrest⟩
    · obtain ⟨⟨⟩, hvalue, h⟩ := bind_eq_ok.1 h
      obtain ⟨row', hrest, -⟩ := bind_eq_ok.1 h
      exact ⟨hs f hf value () hvalue, isSound_of_readMembers hs rest (name :: seen) row' hrest⟩

/-- The fields of a record are read from a container that is closed. -/
theorem isContainer_of_read {s : Shape} (hs : ∀ f ∈ s.fields, Vouches f.check) {d : Document}
    {row : Row} (h : s.read d = .ok row) : d.isSound = true ∧ d.IsContainer := by
  cases d with
  | array items => exact ⟨s.isSound_of_readItems hs 0 items row h, trivial⟩
  | object members => exact ⟨isSound_of_readMembers hs members [] row h, trivial⟩
  | word | number | text | absent | faulty => cases h

end Shape

theorem Vouches.shape {s : Shape} (hs : ∀ f ∈ s.fields, Vouches f.check) : Vouches s.read :=
  fun _ _ h => (Shape.isContainer_of_read hs h).1

/-! ### Whole texts -/

theorem decode_eq_ok {read : Document → Result α} {bytes : Bytes} {a : α} :
    decode read bytes = .ok a ↔
      ∃ d, Document.ofTokens (tokens bytes) = (d, []) ∧ read d = .ok a := by
  generalize hparse : Document.ofTokens (tokens bytes) = parsed
  obtain ⟨d, rest⟩ := parsed
  rw [decode, hparse]
  constructor
  · intro h
    obtain ⟨a', ha, h⟩ := bind_eq_ok.1 h
    cases rest with
    | nil => cases h; exact ⟨d, rfl, ha⟩
    | cons t rest => cases h
  · rintro ⟨_, ⟨⟩, ha⟩
    exact bind_eq_ok.2 ⟨a, ha, rfl⟩

theorem decode_of_spells {read : Document → Result α} {d : Document} (hd : d.IsValid)
    {text : Bytes} (h : Spells d.tokens text) : decode read text = read d := by
  rw [decode, Document.ofTokens_of_spells hd h]
  dsimp only
  cases read d <;> rfl

theorem decode_bytes {read : Document → Result α} {d : Document} (hd : d.IsValid) :
    decode read d.bytes = read d :=
  decode_of_spells hd (spells_flatMap d.tokens)

/-- Of a text that decodes to a record, nothing but white space can be cut off. -/
theorem isSpace_of_decode_append {read : Document → Result α}
    (hread : ∀ d a, read d = .ok a → d.isSound = true ∧ d.IsContainer) {text more : Bytes}
    {a b : α} (ha : decode read text = .ok a) (hb : decode read (text ++ more) = .ok b) :
    ∀ c ∈ more, isSpace c = true := by
  obtain ⟨d, hd, had⟩ := decode_eq_ok.1 ha
  obtain ⟨hsound, hcontainer⟩ := hread d a had
  obtain ⟨taken, last, htext, hlast, hmore⟩ := Document.taken_of_build hd hsound hcontainer
  have hclosed : (¬ last.IsNumber) ∧ ∀ fault, last ≠ .faulty fault := by
    rcases hlast with rfl | rfl
    · exact ⟨by rintro ⟨n, ⟨⟩⟩, by rintro fault ⟨⟩⟩
    · exact ⟨by rintro ⟨n, ⟨⟩⟩, by rintro fault ⟨⟩⟩
  -- the last token is a bracket or a brace, so what follows is lexed as if it stood alone
  have htokens : tokens (text ++ more) = taken ++ last :: tokens more := by
    rw [tokens_append (t := last) (by rw [htext]; simp) hclosed.1 hclosed.2, htext,
      List.append_assoc, List.singleton_append]
  obtain ⟨d', hd', -⟩ := decode_eq_ok.1 hb
  rw [htokens, Document.ofTokens, hmore] at hd'
  exact isSpace_of_tokens_eq_nil (Prod.mk.inj hd').2

end Telemetry.Json
