import Mathlib.Data.List.Chain
import Telemetry.Json.Document

/-!
The grammar of JSON texts.

A text is the tokens of a document with white space anywhere between them. Which documents there
are is said here without a look at the reader: what a numeral is, what may stand between quotes, and
that every container is closed.
-/
namespace Telemetry.Json

namespace Numeral

def IsDigits (ds : Bytes) : Prop := ds ≠ [] ∧ ∀ b ∈ ds, isDigit b = true

/-- No digit follows a leading zero. -/
def IsWhole (ds : Bytes) : Prop := ds = [0x30] ∨ IsDigits ds ∧ ds.head? ≠ some 0x30

def IsFraction (bs : Bytes) : Prop := bs = [] ∨ ∃ ds, bs = 0x2E :: ds ∧ IsDigits ds

def IsPower (bs : Bytes) : Prop :=
  bs = [] ∨ ∃ mark sign ds, bs = mark :: (sign ++ ds) ∧ (mark = 0x65 ∨ mark = 0x45) ∧
    (sign = [] ∨ sign = [0x2B] ∨ sign = [0x2D]) ∧ IsDigits ds

/-- An optional minus sign, whole digits, and maybe a fraction and a power of ten. -/
def IsNumeral (n : Bytes) : Prop :=
  ∃ sign whole fraction power, n = sign ++ (whole ++ (fraction ++ power)) ∧
    (sign = [] ∨ sign = [0x2D]) ∧ IsWhole whole ∧ IsFraction fraction ∧ IsPower power

end Numeral

/-- What may stand between quotes. -/
def Piece.IsValid : Piece → Prop
  | .byte b => 0x20 ≤ b ∧ b ≠ 0x22 ∧ b ≠ 0x5C
  | .escape letter => isEscapeLetter letter = true
  | .unit a b c d =>
    isHexDigit a = true ∧ isHexDigit b = true ∧ isHexDigit c = true ∧ isHexDigit d = true

def Token.IsValid : Token → Prop
  | .number n => Numeral.IsNumeral n
  | .text pieces => ∀ p ∈ pieces, p.IsValid
  | .faulty _ => False
  | _ => True

def Token.IsNumber (t : Token) : Prop := ∃ n, t = .number n

mutual

/-- A JSON value: its numerals and texts are well formed and its containers are closed. -/
def Document.IsValid : Document → Prop
  | .word _ => True
  | .number n => Numeral.IsNumeral n
  | .text pieces => ∀ p ∈ pieces, p.IsValid
  | .array items => items.IsValid
  | .object members => members.IsValid
  | .absent => False
  | .faulty _ => False

def Items.IsValid : Items → Prop
  | .stop reason => reason = .closed
  | .next item rest => item.IsValid ∧ rest.IsValid

def Members.IsValid : Members → Prop
  | .stop reason => reason = .closed
  | .next key value rest => (∀ p ∈ key, p.IsValid) ∧ value.IsValid ∧ rest.IsValid

end

/-- Bytes that are the given tokens with white space before, between and after them. -/
inductive Spells : List Token → Bytes → Prop
  | nil : Spells [] []
  | space {b : UInt8} {ts : List Token} {bytes : Bytes} :
      isSpace b = true → Spells ts bytes → Spells ts (b :: bytes)
  | token (t : Token) {ts : List Token} {bytes : Bytes} :
      Spells ts bytes → Spells (t :: ts) (t.bytes ++ bytes)

/-- Without white space. -/
theorem spells_flatMap (ts : List Token) : Spells ts (ts.flatMap Token.bytes) := by
  induction ts with
  | nil => exact .nil
  | cons t ts ih => exact .token t ih

/-! ### Valid documents are sound, and so are their tokens -/

mutual

theorem Document.isSound_of_isValid : ∀ d : Document, d.IsValid → d.isSound = true
  | .word _, _ | .number _, _ | .text _, _ => rfl
  | .array items, h => items.isSound_of_isValid h
  | .object members, h => members.isSound_of_isValid h
  | .absent, h | .faulty _, h => h.elim

theorem Items.isSound_of_isValid : ∀ items : Items, items.IsValid → items.isSound = true
  | .stop _, h => decide_eq_true h
  | .next item rest, h => by
    rw [Items.isSound, item.isSound_of_isValid h.1, rest.isSound_of_isValid h.2]
    rfl

theorem Members.isSound_of_isValid : ∀ members : Members, members.IsValid → members.isSound = true
  | .stop _, h => decide_eq_true h
  | .next _ value rest, h => by
    rw [Members.isSound, value.isSound_of_isValid h.2.1, rest.isSound_of_isValid h.2.2]
    rfl

end

mutual

theorem Document.isValid_of_mem_tokens : ∀ d : Document, d.IsValid → ∀ t ∈ d.tokens, t.IsValid
  | .word _, _, t, ht => by
    cases List.mem_singleton.1 ht
    trivial
  | .number _, h, t, ht | .text _, h, t, ht => by
    cases List.mem_singleton.1 ht
    exact h
  | .array items, h, t, ht => by
    rcases List.mem_cons.1 ht with rfl | ht
    · trivial
    · exact items.isValid_of_mem_tokens true h t ht
  | .object members, h, t, ht => by
    rcases List.mem_cons.1 ht with rfl | ht
    · trivial
    · exact members.isValid_of_mem_tokens true h t ht
  | .absent, h, _, _ | .faulty _, h, _, _ => h.elim

theorem Items.isValid_of_mem_tokens :
    ∀ (items : Items) (first : Bool), items.IsValid → ∀ t ∈ items.tokens first, t.IsValid
  | .stop _, _, _, t, ht => by
    cases List.mem_singleton.1 ht
    trivial
  | .next item rest, first, h, t, ht => by
    rw [Items.tokens, List.mem_append, List.mem_append] at ht
    rcases ht with (ht | ht) | ht
    · cases first
      · cases List.mem_singleton.1 ht
        trivial
      · cases ht
    · exact item.isValid_of_mem_tokens h.1 t ht
    · exact rest.isValid_of_mem_tokens false h.2 t ht

theorem Members.isValid_of_mem_tokens :
    ∀ (members : Members) (first : Bool), members.IsValid → ∀ t ∈ members.tokens first, t.IsValid
  | .stop _, _, _, t, ht => by
    cases List.mem_singleton.1 ht
    trivial
  | .next key value rest, first, h, t, ht => by
    rw [Members.tokens, List.mem_append, List.mem_append, List.mem_append] at ht
    rcases ht with ((ht | ht) | ht) | ht
    · cases first
      · cases List.mem_singleton.1 ht
        trivial
      · cases ht
    · rcases List.mem_cons.1 ht with rfl | ht
      · exact h.1
      · cases List.mem_singleton.1 ht
        trivial
    · exact value.isValid_of_mem_tokens h.2.1 t ht
    · exact rest.isValid_of_mem_tokens false h.2.2 t ht

end

/-! ### Numbers never stand side by side -/

/-- Not both are numbers. -/
def Token.Apart (t u : Token) : Prop := t.IsNumber → ¬ u.IsNumber

theorem Token.apart_of_not_left {t : Token} (h : ¬ t.IsNumber) (u : Token) : t.Apart u :=
  fun ht => absurd ht h

/-- Tokens that may stand after a number. -/
def StartsApart (ts : List Token) : Prop := ∀ t ∈ ts.head?, ¬ t.IsNumber

theorem isChain_cons_of_startsApart {t : Token} {ts : List Token} (hstart : StartsApart ts)
    (h : ts.IsChain Token.Apart) : (t :: ts).IsChain Token.Apart :=
  h.cons fun u hu _ => hstart u hu

theorem isChain_cons_of_not_isNumber {t : Token} {ts : List Token} (ht : ¬ t.IsNumber)
    (h : ts.IsChain Token.Apart) : (t :: ts).IsChain Token.Apart :=
  h.cons fun u _ => Token.apart_of_not_left ht u

theorem Items.startsApart_tokens (items : Items) (more : List Token) :
    StartsApart (items.tokens false ++ more) := by
  cases items <;> rintro t ⟨⟩ ⟨n, hn⟩ <;> cases hn

theorem Members.startsApart_tokens (members : Members) (more : List Token) :
    StartsApart (members.tokens false ++ more) := by
  cases members <;> rintro t ⟨⟩ ⟨n, hn⟩ <;> cases hn

mutual

theorem Document.isChain_tokens : ∀ (d : Document) {more : List Token}, StartsApart more →
    more.IsChain Token.Apart → (d.tokens ++ more).IsChain Token.Apart
  | .word _, _, hstart, h | .number _, _, hstart, h | .text _, _, hstart, h
  | .faulty _, _, hstart, h => isChain_cons_of_startsApart hstart h
  | .array items, _, _, h =>
    isChain_cons_of_not_isNumber (by rintro ⟨n, ⟨⟩⟩) (items.isChain_tokens true h)
  | .object members, _, _, h =>
    isChain_cons_of_not_isNumber (by rintro ⟨n, ⟨⟩⟩) (members.isChain_tokens true h)
  | .absent, _, _, h => h

theorem Items.isChain_tokens : ∀ (items : Items) (first : Bool) {more : List Token},
    more.IsChain Token.Apart → (items.tokens first ++ more).IsChain Token.Apart
  | .stop _, _, _, h => isChain_cons_of_not_isNumber (by rintro ⟨n, ⟨⟩⟩) h
  | .next item rest, first, more, h => by
    have hitem := item.isChain_tokens (rest.startsApart_tokens more) (rest.isChain_tokens false h)
    rw [Items.tokens, List.append_assoc, List.append_assoc]
    cases first
    · exact isChain_cons_of_not_isNumber (by rintro ⟨n, ⟨⟩⟩) hitem
    · exact hitem

theorem Members.isChain_tokens : ∀ (members : Members) (first : Bool) {more : List Token},
    more.IsChain Token.Apart → (members.tokens first ++ more).IsChain Token.Apart
  | .stop _, _, _, h => isChain_cons_of_not_isNumber (by rintro ⟨n, ⟨⟩⟩) h
  | .next key value rest, first, more, h => by
    have hvalue := value.isChain_tokens (rest.startsApart_tokens more) (rest.isChain_tokens false h)
    have hmember := isChain_cons_of_not_isNumber (t := .text key) (by rintro ⟨n, ⟨⟩⟩)
      (isChain_cons_of_not_isNumber (t := .colon) (by rintro ⟨n, ⟨⟩⟩) hvalue)
    rw [Members.tokens, List.append_assoc, List.append_assoc, List.append_assoc]
    cases first
    · exact isChain_cons_of_not_isNumber (by rintro ⟨n, ⟨⟩⟩) hmember
    · exact hmember

end

/-! ### Containers made of lists -/

theorem Items.isValid_ofList {items : List Document} :
    (Items.ofList .closed items).IsValid ↔ ∀ d ∈ items, d.IsValid := by
  induction items with
  | nil => simp [Items.ofList, Items.IsValid]
  | cons d items ih => simp [Items.ofList, Items.IsValid, ih]

theorem Members.isValid_ofList {members : List (List Piece × Document)} :
    (Members.ofList .closed members).IsValid ↔
      ∀ m ∈ members, (∀ p ∈ m.1, p.IsValid) ∧ m.2.IsValid := by
  induction members with
  | nil => simp [Members.ofList, Members.IsValid]
  | cons m members ih =>
    obtain ⟨key, value⟩ := m
    simp [Members.ofList, Members.IsValid, ih, and_assoc]

end Telemetry.Json
