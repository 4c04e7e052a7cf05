import Mathlib.Data.List.Basic
import Telemetry.Proofs.Failure
import Telemetry.Text.Integer

/-!
Which texts are read as integers.

A natural number is written as one or more ASCII digits, perhaps after a plus sign; leading zeros
do not matter. An integer may have a minus sign instead. The readers accept the texts that write a
number of their range, and no others (`readUInt16_eq_ok_iff`, `readUInt64_eq_ok_iff`,
`readInt64_eq_ok_iff`). Digits that go on never make a number smaller, so a text may be given up at
the first digit that leaves the range.
-/
namespace Telemetry.Text

/-- One or more ASCII digits and the number that they make up. -/
structure IsNumber (s : List Char) (n : Nat) : Prop where
  nonempty : s ≠ []
  digits : ∀ c ∈ s, c.isDigit = true
  value : Nat.ofDigitChars 10 s 0 = n

/-- The ways to write a natural number. -/
inductive WritesNat : List Char → Nat → Prop where
  | bare {s : List Char} {n : Nat} (h : IsNumber s n) : WritesNat s n
  | plus {s : List Char} {n : Nat} (h : IsNumber s n) : WritesNat ('+' :: s) n

/-- The ways to write an integer. -/
inductive WritesInt : List Char → Int → Prop where
  | natural {s : List Char} {n : Nat} (h : WritesNat s n) : WritesInt s n
  | minus {s : List Char} {n : Nat} (h : IsNumber s n) : WritesInt ('-' :: s) (-n)

/-- What spoils digits that are read onto a value: the first character that is no digit, or the
first digit with which the value leaves its range. -/
inductive Spoils (limit : Nat) (excess : IntegerError) (value : Nat) :
    List Char → IntegerError → Prop where
  | foreign {digits rest : List Char} {c : Char} (hdigits : ∀ d ∈ digits, d.isDigit = true)
    (hfits : Nat.ofDigitChars 10 digits value ≤ limit) (hc : c.isDigit = false) :
    Spoils limit excess value (digits ++ c :: rest) .invalidDigit
  | beyond {digits rest : List Char} {c : Char} (hdigits : ∀ d ∈ digits, d.isDigit = true)
    (hfits : Nat.ofDigitChars 10 digits value ≤ limit) (hc : c.isDigit = true)
    (hbeyond : limit < Nat.ofDigitChars 10 (digits ++ [c]) value) :
    Spoils limit excess value (digits ++ c :: rest) excess

/-- What is wrong with a text that writes no natural number up to a limit. -/
inductive NatFlaw (limit : Nat) : List Char → IntegerError → Prop where
  | empty : NatFlaw limit [] .empty
  | lonePlus : NatFlaw limit ['+'] .invalidDigit
  | bare {s : List Char} {e : IntegerError} (hplus : s.head? ≠ some '+')
    (h : Spoils limit .tooLarge 0 s e) : NatFlaw limit s e
  | plus {s : List Char} {e : IntegerError} (h : Spoils limit .tooLarge 0 s e) :
    NatFlaw limit ('+' :: s) e

/-! ### Digits -/

theorem digit?_of_isDigit {c : Char} (hc : c.isDigit = true) : digit? c = some (c.toNat - 48) := by
  obtain ⟨hlow, hhigh⟩ := Char.isDigit_iff_toNat.1 hc
  have hlow : '0' ≤ c := Char.le_def.2 (UInt32.le_iff_toNat_le.2 hlow)
  have hhigh : c ≤ '9' := Char.le_def.2 (UInt32.le_iff_toNat_le.2 hhigh)
  rw [digit?, if_pos ⟨hlow, hhigh⟩]
  rfl

theorem digit?_of_not_isDigit {c : Char} (hc : c.isDigit = false) : digit? c = none := by
  refine if_neg fun h => ?_
  have hlow := UInt32.le_iff_toNat_le.1 (Char.le_def.1 h.1)
  have hhigh := UInt32.le_iff_toNat_le.1 (Char.le_def.1 h.2)
  cases hc.symm.trans (Char.isDigit_iff_toNat.2 ⟨hlow, hhigh⟩)

theorem le_ofDigitChars (digits : List Char) (value : Nat) :
    value ≤ Nat.ofDigitChars 10 digits value := by
  induction digits generalizing value with
  | nil => exact Nat.le_refl value
  | cons c digits ih =>
    have hrest := ih (10 * value + (c.toNat - '0'.toNat))
    rw [Nat.ofDigitChars_cons]
    omega

section Reading

variable {limit value : Nat} {excess : IntegerError}

theorem readDigits_cons {c : Char} (hc : c.isDigit = true) (rest : List Char) :
    readDigits limit excess value (c :: rest) =
      if Nat.ofDigitChars 10 [c] value ≤ limit then
        readDigits limit excess (Nat.ofDigitChars 10 [c] value) rest
      else .error excess := by
  have hvalue : value * 10 + (c.toNat - 48) = Nat.ofDigitChars 10 [c] value := by
    rw [Nat.mul_comm]
    rfl
  simp only [readDigits, digit?_of_isDigit hc, hvalue]

theorem readDigits_append {digits : List Char} (hdigits : ∀ d ∈ digits, d.isDigit = true)
    (hfits : Nat.ofDigitChars 10 digits value ≤ limit) (rest : List Char) :
    readDigits limit excess value (digits ++ rest) =
      readDigits limit excess (Nat.ofDigitChars 10 digits value) rest := by
  induction digits generalizing value with
  | nil => rfl
  | cons c digits ih =>
    rw [← List.singleton_append, Nat.ofDigitChars_append] at hfits
    have hfirst := Nat.le_trans (le_ofDigitChars digits _) hfits
    rw [List.cons_append, readDigits_cons (hdigits c List.mem_cons_self), if_pos hfirst,
      ih (fun d hd => hdigits d (List.mem_cons_of_mem c hd)) hfits, ← Nat.ofDigitChars_append]
    rfl

theorem Spoils.ne_nil {s : List Char} {e : IntegerError} (h : Spoils limit excess value s e) :
    s ≠ [] := by
  cases h <;> exact List.append_ne_nil_of_right_ne_nil _ (List.cons_ne_nil _ _)

theorem readDigits_of_spoils {s : List Char} {e : IntegerError}
    (h : Spoils limit excess value s e) : readDigits limit excess value s = .error e := by
  cases h with
  | foreign hdigits hfits hc =>
    rw [readDigits_append hdigits hfits, readDigits, digit?_of_not_isDigit hc]
  | beyond hdigits hfits hc hbeyond =>
    rw [Nat.ofDigitChars_append] at hbeyond
    rw [readDigits_append hdigits hfits, readDigits_cons hc, if_neg (Nat.not_le.2 hbeyond)]

theorem Spoils.cons {c : Char} {s : List Char} {e : IntegerError} (hc : c.isDigit = true)
    (h : Spoils limit excess (Nat.ofDigitChars 10 [c] value) s e) :
    Spoils limit excess value (c :: s) e := by
  have hall : ∀ digits : List Char, (∀ d ∈ digits, d.isDigit = true) →
      ∀ d ∈ c :: digits, d.isDigit = true :=
    fun digits hdigits => List.forall_mem_cons.2 ⟨hc, hdigits⟩
  cases h with
  | foreign hdigits hfits hd =>
    rw [← Nat.ofDigitChars_append] at hfits
    exact .foreign (hall _ hdigits) hfits hd
  | beyond hdigits hfits hd hbeyond =>
    rw [← Nat.ofDigitChars_append] at hfits hbeyond
    exact .beyond (hall _ hdigits) hfits hd hbeyond

theorem fits_or_spoils (excess : IntegerError) (hvalue : value ≤ limit) (s : List Char) :
    ((∀ c ∈ s, c.isDigit = true) ∧ Nat.ofDigitChars 10 s value ≤ limit) ∨
      ∃ e, Spoils limit excess value s e := by
  -- the value is general, since it grows with every digit that is read
  induction s generalizing value with
  | nil => exact Or.inl ⟨by simp, hvalue⟩
  | cons c s ih =>
    cases hc : c.isDigit with
    | false => exact Or.inr ⟨_, @Spoils.foreign _ _ _ [] s c (by simp) hvalue hc⟩
    | true =>
      by_cases hfirst : Nat.ofDigitChars 10 [c] value ≤ limit
      · rcases ih hfirst with ⟨hdigits, hfits⟩ | ⟨e, h⟩
        · rw [← Nat.ofDigitChars_append] at hfits
          exact Or.inl ⟨List.forall_mem_cons.2 ⟨hc, hdigits⟩, hfits⟩
        · exact Or.inr ⟨e, h.cons hc⟩
      · exact Or.inr ⟨_, @Spoils.beyond _ _ _ [] s c (by simp) hvalue hc (Nat.not_le.1 hfirst)⟩

theorem readDigits_eq_ok_iff {s : List Char} {n : Nat} (hvalue : value ≤ limit) :
    readDigits limit excess value s = .ok n ↔
      (∀ c ∈ s, c.isDigit = true) ∧ Nat.ofDigitChars 10 s value = n ∧ n ≤ limit := by
  have hread : (∀ c ∈ s, c.isDigit = true) → Nat.ofDigitChars 10 s value ≤ limit →
      readDigits limit excess value s = .ok (Nat.ofDigitChars 10 s value) := by
    intro hdigits hfits
    have happend : readDigits limit excess value (s ++ []) = _ :=
      readDigits_append hdigits hfits []
    rwa [List.append_nil] at happend
  constructor
  · intro h
    rcases fits_or_spoils excess hvalue s with ⟨hdigits, hfits⟩ | ⟨e, hspoils⟩
    · cases h.symm.trans (hread hdigits hfits)
      exact ⟨hdigits, rfl, hfits⟩
    · cases h.symm.trans (readDigits_of_spoils hspoils)
  · rintro ⟨hdigits, rfl, hfits⟩
    exact hread hdigits hfits

/-! ### Magnitudes -/

theorem readMagnitude_eq_ok_iff {s : List Char} {n : Nat} :
    readMagnitude limit excess s = .ok n ↔ IsNumber s n ∧ n ≤ limit := by
  cases s with
  | nil => exact ⟨(fun h => by cases h), fun h => absurd rfl h.1.nonempty⟩
  | cons c s =>
    rw [readMagnitude, readDigits_eq_ok_iff (Nat.zero_le limit)]
    exact ⟨fun ⟨hdigits, hvalue, hfits⟩ => ⟨⟨List.cons_ne_nil c s, hdigits, hvalue⟩, hfits⟩,
      fun ⟨h, hfits⟩ => ⟨h.digits, h.value, hfits⟩⟩

end Reading

theorem IsNumber.head?_ne {s : List Char} {n : Nat} (h : IsNumber s n) {c : Char}
    (hc : c.isDigit = false) : s.head? ≠ some c := by
  intro hhead
  cases hc.symm.trans (h.digits c (List.mem_of_head? hhead))

theorem readNat_of_ne_plus {limit : Nat} {s : List Char} (hs : s ≠ [])
    (hplus : s.head? ≠ some '+') : readNat limit s = readMagnitude limit .tooLarge s := by
  unfold readNat
  split
  · exact absurd rfl hs
  · exact absurd rfl hplus
  · rfl

theorem readNat_eq_ok_iff {limit : Nat} {s : List Char} {n : Nat} :
    readNat limit s = .ok n ↔ WritesNat s n ∧ n ≤ limit := by
  constructor
  · intro h
    unfold readNat at h
    split at h
    · cases h
    · obtain ⟨hnumber, hfits⟩ := readMagnitude_eq_ok_iff.1 h
      exact ⟨.plus hnumber, hfits⟩
    · obtain ⟨hnumber, hfits⟩ := readMagnitude_eq_ok_iff.1 h
      exact ⟨.bare hnumber, hfits⟩
  · rintro ⟨h, hfits⟩
    cases h with
    | bare hnumber =>
      rw [readNat_of_ne_plus hnumber.nonempty (hnumber.head?_ne (by decide))]
      exact readMagnitude_eq_ok_iff.2 ⟨hnumber, hfits⟩
    | plus hnumber => exact readMagnitude_eq_ok_iff.2 ⟨hnumber, hfits⟩

theorem readNat_eq_error_iff {limit : Nat} {s : List Char} {e : IntegerError} :
    readNat limit s = .error e ↔ NatFlaw limit s e := by
  have hspoils : ∀ {c : Char} {s : List Char},
      readMagnitude limit .tooLarge (c :: s) = .error e → Spoils limit .tooLarge 0 (c :: s) e := by
    intro c s h
    rw [readMagnitude] at h
    rcases fits_or_spoils .tooLarge (Nat.zero_le limit) (c :: s) with ⟨hdigits, hfits⟩ | ⟨d, hd⟩
    · cases h.symm.trans ((readDigits_eq_ok_iff (Nat.zero_le limit)).2 ⟨hdigits, rfl, hfits⟩)
    · cases h.symm.trans (readDigits_of_spoils hd)
      exact hd
  have hread : ∀ {s : List Char}, Spoils limit .tooLarge 0 s e →
      s ≠ [] ∧ readMagnitude limit .tooLarge s = .error e := by
    intro s h
    cases s with
    | nil => exact absurd rfl h.ne_nil
    | cons c s => exact ⟨h.ne_nil, readDigits_of_spoils h⟩
  constructor
  · intro h
    unfold readNat at h
    split at h
    · cases h
      exact .empty
    · next rest =>
      cases rest with
      | nil =>
        cases h
        exact .lonePlus
      | cons c rest => exact .plus (hspoils h)
    · next hplus =>
      exact .bare (fun hhead => hplus (Option.some.inj hhead)) (hspoils h)
  · intro h
    cases h with
    | empty => rfl
    | lonePlus => rfl
    | bare hplus h =>
      obtain ⟨hne, hread⟩ := hread h
      rw [readNat_of_ne_plus hne hplus, hread]
    | plus h => exact (hread h).2

/-- A text has a flaw exactly if it writes no number up to the limit. -/
theorem exists_natFlaw_iff {limit : Nat} {s : List Char} :
    (∃ e, NatFlaw limit s e) ↔ ∀ n, WritesNat s n → limit < n := by
  simp only [← readNat_eq_error_iff]
  constructor
  · rintro ⟨e, he⟩ n hn
    refine Nat.lt_of_not_le fun hle => ?_
    cases he.symm.trans (readNat_eq_ok_iff.2 ⟨hn, hle⟩)
  · intro hnone
    cases hread : readNat limit s with
    | error e => exact ⟨e, rfl⟩
    | ok n =>
      obtain ⟨hn, hle⟩ := readNat_eq_ok_iff.1 hread
      exact absurd (hnone n hn) (Nat.not_lt.2 hle)

/-! ### Integers -/

theorem readInt_of_ne_minus {bound : Nat} {s : List Char} (hminus : s.head? ≠ some '-') :
    readInt bound s = (readNat (bound - 1) s).map Int.ofNat := by
  unfold readInt readNat
  split
  · rfl
  · rfl
  · exact absurd rfl hminus
  · next hplus _ =>
    split
    · next hnil => cases hnil
    · next hhead => exact absurd (List.cons.inj hhead).1 hplus
    · rfl

theorem WritesNat.head?_ne_minus {s : List Char} {n : Nat} (h : WritesNat s n) :
    s.head? ≠ some '-' := by
  cases h with
  | bare hnumber => exact hnumber.head?_ne (by decide)
  | plus => simp

theorem readInt_eq_ok_iff {bound : Nat} (hbound : 0 < bound) {s : List Char} {n : Int} :
    readInt bound s = .ok n ↔ WritesInt s n ∧ -(bound : Int) ≤ n ∧ n < bound := by
  constructor
  · intro h
    by_cases hminus : s.head? = some '-'
    · obtain ⟨rest, rfl⟩ := List.head?_eq_some_iff.1 hminus
      rw [readInt] at h
      obtain ⟨m, hread, rfl⟩ := map_eq_ok.1 h
      obtain ⟨hnumber, hm⟩ := readMagnitude_eq_ok_iff.1 hread
      exact ⟨.minus hnumber, by simp only [Int.ofNat_eq_natCast]; omega⟩
    · rw [readInt_of_ne_minus hminus] at h
      obtain ⟨m, hread, rfl⟩ := map_eq_ok.1 h
      obtain ⟨hwrites, hm⟩ := readNat_eq_ok_iff.1 hread
      exact ⟨.natural hwrites, by simp only [Int.ofNat_eq_natCast]; omega⟩
  · rintro ⟨h, hlow, hhigh⟩
    cases h with
    | @natural _ m hwrites =>
      rw [readInt_of_ne_minus hwrites.head?_ne_minus]
      exact map_eq_ok.2 ⟨m, readNat_eq_ok_iff.2 ⟨hwrites, by omega⟩, rfl⟩
    | @minus rest m hnumber =>
      rw [readInt]
      exact map_eq_ok.2 ⟨m, readMagnitude_eq_ok_iff.2 ⟨hnumber, by omega⟩, rfl⟩

/-! ### Words -/

/-- Numbers up to a limit, read as values that stand for just these numbers. -/
theorem map_readNat_eq_ok_iff {α : Type} {limit : Nat} {ofNat : Nat → α} {toNat : α → Nat}
    (hfits : ∀ w, toNat w ≤ limit) (hback : ∀ w, ofNat (toNat w) = w)
    (hthere : ∀ n, n ≤ limit → toNat (ofNat n) = n) {s : List Char} {w : α} :
    (readNat limit s).map ofNat = .ok w ↔ WritesNat s (toNat w) := by
  rw [map_eq_ok]
  constructor
  · rintro ⟨n, hread, rfl⟩
    obtain ⟨hwrites, hn⟩ := readNat_eq_ok_iff.1 hread
    rwa [hthere n hn]
  · intro h
    exact ⟨toNat w, readNat_eq_ok_iff.2 ⟨h, hfits w⟩, hback w⟩

theorem readUInt16_eq_ok_iff {s : List Char} {w : UInt16} :
    readUInt16 s = .ok w ↔ WritesNat s w.toNat :=
  map_readNat_eq_ok_iff (fun w => Nat.le_sub_one_of_lt w.toNat_lt) (fun _ => UInt16.ofNat_toNat)
    fun _ hn => UInt16.toNat_ofNat_of_lt' (Nat.lt_of_le_sub_one (by decide) hn)

theorem readUInt16_eq_error_iff {s : List Char} {e : IntegerError} :
    readUInt16 s = .error e ↔ NatFlaw (UInt16.size - 1) s e :=
  map_eq_error.trans readNat_eq_error_iff

theorem readUInt64_eq_ok_iff {s : List Char} {w : UInt64} :
    readUInt64 s = .ok w ↔ WritesNat s w.toNat :=
  map_readNat_eq_ok_iff (fun w => Nat.le_sub_one_of_lt w.toNat_lt) (fun _ => UInt64.ofNat_toNat)
    fun _ hn => UInt64.toNat_ofNat_of_lt' (Nat.lt_of_le_sub_one (by decide) hn)

theorem readUInt64_eq_error_iff {s : List Char} {e : IntegerError} :
    readUInt64 s = .error e ↔ NatFlaw (UInt64.size - 1) s e :=
  map_eq_error.trans readNat_eq_error_iff

theorem readInt64_eq_ok_iff {s : List Char} {w : Int64} :
    readInt64 s = .ok w ↔ WritesInt s w.toInt := by
  have hbound : 0 < int64Half := by decide
  rw [readInt64, map_eq_ok]
  constructor
  · rintro ⟨n, hread, rfl⟩
    obtain ⟨hwrites, hlow, hhigh⟩ := (readInt_eq_ok_iff hbound).1 hread
    rwa [Int64.toInt_ofInt_of_le hlow hhigh]
  · intro h
    exact ⟨w.toInt, (readInt_eq_ok_iff hbound).2 ⟨h, w.le_toInt, w.toInt_lt⟩, Int64.ofInt_toInt w⟩

/-! ### Written integers -/

/-- What can stand in a written integer: a digit or a sign. -/
theorem WritesInt.mem {s : List Char} {n : Int} (h : WritesInt s n) {c : Char} (hc : c ∈ s) :
    c.isDigit = true ∨ c = '+' ∨ c = '-' := by
  cases h with
  | natural h =>
    cases h with
    | bare h => exact .inl (h.digits c hc)
    | plus h =>
      rcases List.mem_cons.1 hc with hplus | hc
      · exact .inr (.inl hplus)
      · exact .inl (h.digits c hc)
  | minus h =>
    rcases List.mem_cons.1 hc with hminus | hc
    · exact .inr (.inr hminus)
    · exact .inl (h.digits c hc)

theorem WritesInt.toNat_lt {s : List Char} {n : Int} (h : WritesInt s n) {c : Char} (hc : c ∈ s) :
    0x20 ≤ c.toNat ∧ c.toNat < 0x7F := by
  rcases h.mem hc with hdigit | rfl | rfl
  · obtain ⟨hlow, hhigh⟩ := Char.isDigit_iff_toNat.1 hdigit
    exact ⟨Nat.le_trans (by decide) hlow, Nat.lt_of_le_of_lt hhigh (by decide)⟩
  · decide
  · decide

theorem isNumber_decimal (n : Nat) : IsNumber (decimal n) n :=
  ⟨Nat.toDigits_ne_nil, fun _ hc => Nat.isDigit_of_mem_toDigits (by decide) (by decide) hc,
    Nat.ofDigitChars_ten_toDigits⟩

theorem writesInt_decimalInt (n : Int) : WritesInt (decimalInt n) n := by
  cases n with
  | ofNat n => exact .natural (.bare (isNumber_decimal n))
  | negSucc n => exact .minus (isNumber_decimal (n + 1))

end Telemetry.Text
