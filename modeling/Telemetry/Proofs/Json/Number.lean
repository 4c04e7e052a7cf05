import Telemetry.Proofs.Json.Lexing
import Telemetry.Proofs.Json.Quoting

/-!
Integers in decimal.

The numeral of an integer is one by the grammar, and its value is the integer again, so that words
of 64 and of 16 bits come back whole, as numbers and, in the keys of counts, between quotes.
-/
namespace Telemetry.Json

open Text

namespace Numeral

/-! ### Digits -/

theorem isDigit_ofNat {c : Char} (h : c.isDigit = true) :
    isDigit (UInt8.ofNat c.toNat) = true ∧ digitValue (UInt8.ofNat c.toNat) = c.toNat - 48 := by
  have hc : 48 ≤ c.toNat ∧ c.toNat ≤ 57 := Char.isDigit_iff_toNat.1 h
  have hb := Utf8.toNat_ofNat (n := c.toNat) (by omega)
  constructor
  · rw [isDigit, Bool.and_eq_true, decide_eq_true_eq, decide_eq_true_eq, UInt8.le_iff_toNat_le,
      UInt8.le_iff_toNat_le, hb]
    exact hc
  · rw [digitValue, hb]

theorem isDigit_of_mem_decimal {n : Nat} {c : Char} (h : c ∈ decimal n) : c.isDigit = true :=
  Nat.isDigit_of_mem_toDigits (by decide) (by decide) h

/-- The bytes of a natural number. -/
def ofNat (n : Nat) : Bytes := Utf8.encode (decimal n)

theorem ofNat_eq_map (n : Nat) : ofNat n = (decimal n).map fun c => UInt8.ofNat c.toNat := by
  refine Utf8.encode_of_ascii fun c hc => ?_
  have hdigit : 48 ≤ c.toNat ∧ c.toNat ≤ 57 := Char.isDigit_iff_toNat.1 (isDigit_of_mem_decimal hc)
  omega

theorem isDigits_ofNat (n : Nat) : IsDigits (ofNat n) := by
  rw [ofNat_eq_map]
  refine ⟨fun h => Nat.toDigits_ne_nil (List.map_eq_nil_iff.1 h), fun b hb => ?_⟩
  obtain ⟨c, hc, rfl⟩ := List.mem_map.1 hb
  exact (isDigit_ofNat (isDigit_of_mem_decimal hc)).1

theorem natural_ofNat (n : Nat) : natural (ofNat n) = n := by
  -- digits are read onto what has been read, so the accumulator is arbitrary
  have hfold : ∀ (cs : List Char), (∀ c ∈ cs, c.isDigit = true) → ∀ m,
      (cs.map fun c => UInt8.ofNat c.toNat).foldl (fun n b => n * 10 + digitValue b) m =
        Nat.ofDigitChars 10 cs m := by
    intro cs
    induction cs with
    | nil => intro _ m; rfl
    | cons c cs ih =>
      intro h m
      have hc := (isDigit_ofNat (h c List.mem_cons_self)).2
      rw [List.map_cons, List.foldl_cons, ih fun d hd => h d (List.mem_cons_of_mem _ hd), hc,
        Nat.mul_comm m 10]
      rfl
  rw [natural, ofNat_eq_map, hfold _ fun _ hc => isDigit_of_mem_decimal hc]
  exact Nat.ofDigitChars_ten_toDigits

/-- Only zero is written with a leading zero. -/
theorem head?_decimal {n : Nat} (hn : 0 < n) : (decimal n).head? ≠ some '0' := by
  induction n using Nat.strongRecOn with
  | ind n ih =>
    rw [decimal, Nat.toDigits_eq_if (by decide)]
    split
    · rintro h
      have hzero := Nat.digitChar_eq_zero.1 (Option.some.inj h)
      omega
    · rw [List.head?_append_of_ne_nil _ Nat.toDigits_ne_nil]
      exact ih (n / 10) (by omega) (by omega)

theorem isWhole_ofNat (n : Nat) : IsWhole (ofNat n) := by
  cases n with
  | zero => exact Or.inl rfl
  | succ n =>
    refine Or.inr ⟨isDigits_ofNat _, fun h => head?_decimal (Nat.succ_pos n) ?_⟩
    rw [ofNat_eq_map, List.head?_map] at h
    obtain ⟨c, hc, hzero⟩ := Option.map_eq_some_iff.1 h
    have hdigit : 48 ≤ c.toNat ∧ c.toNat ≤ 57 :=
      Char.isDigit_iff_toNat.1 (isDigit_of_mem_decimal (List.mem_of_head? hc))
    have hnat := congrArg UInt8.toNat hzero
    rw [Utf8.toNat_ofNat (by omega)] at hnat
    rw [hc]
    exact congrArg some (Char.toNat_inj.1 hnat)

/-! ### Integers -/

theorem ofInt_ofNat (n : Nat) : ofInt (Int.ofNat n) = ofNat n := rfl

theorem ofInt_negSucc (n : Nat) : ofInt (Int.negSucc n) = 0x2D :: ofNat (n + 1) := by
  rw [ofInt, decimalInt, Utf8.encode, List.flatMap_cons]
  rfl

theorem isNumeral_ofInt (n : Int) : IsNumeral (ofInt n) := by
  cases n with
  | ofNat n =>
    rw [ofInt_ofNat]
    exact ⟨[], ofNat n, [], [], by simp, Or.inl rfl, isWhole_ofNat n, Or.inl rfl, Or.inl rfl⟩
  | negSucc n =>
    rw [ofInt_negSucc]
    exact ⟨[0x2D], ofNat (n + 1), [], [], by simp, Or.inr rfl, isWhole_ofNat (n + 1), Or.inl rfl,
      Or.inl rfl⟩

theorem takeWhile_isDigits {ds : Bytes} (h : IsDigits ds) :
    ds.takeWhile isDigit = ds ∧ ds.dropWhile isDigit = [] := by
  have htake : (ds ++ []).takeWhile isDigit = ds ++ [] := List.takeWhile_append_of_pos h.2
  have hdrop : (ds ++ []).dropWhile isDigit = [] := List.dropWhile_append_of_pos h.2
  rw [List.append_nil] at htake hdrop
  exact ⟨htake, hdrop⟩

theorem parts_ofNat (n : Nat) : parts (ofNat n) = ⟨false, ofNat n, none, none⟩ := by
  have hdigits := isDigits_ofNat n
  obtain ⟨htake, hdrop⟩ := takeWhile_isDigits hdigits
  have hsign : ((ofNat n).head? == some 0x2D) = false := by
    rw [beq_eq_false_iff_ne]
    intro h
    have := hdigits.2 _ (List.mem_of_head? h)
    cases this
  simp only [parts, hsign, htake, hdrop, Bool.false_eq_true, if_false]

theorem parts_minus (n : Nat) : parts (0x2D :: ofNat n) = ⟨true, ofNat n, none, none⟩ := by
  obtain ⟨htake, hdrop⟩ := takeWhile_isDigits (isDigits_ofNat n)
  have hsign : ((0x2D :: ofNat n : Bytes).head? == some 0x2D) = true := rfl
  simp only [parts, hsign, if_true, List.drop_one, List.tail_cons, htake, hdrop]

theorem value?_ofNat {n : Nat} (h : n < UInt64.size) :
    value? (ofInt (Int.ofNat n)) = some (.natural n) := by
  simp only [ofInt_ofNat, value?, parts_ofNat, natural_ofNat, Option.isNone_none, and_self, if_true,
    Bool.false_eq_true, if_false, h]

theorem value?_negSucc {n : Nat} (h : n + 1 ≤ int64Half) :
    value? (ofInt (Int.negSucc n)) = some (.negative (n + 1)) := by
  simp only [ofInt_negSucc, value?, parts_minus, natural_ofNat, Option.isNone_none, and_self,
    if_true, Nat.succ_pos, h]

end Numeral

/-! ### Words -/

namespace Document

theorem isValid_ofInt (n : Int) : (ofInt n).IsValid := Numeral.isNumeral_ofInt n

theorem readNumber_ofInt {α : Type} {expected : String} {convert : Numeral.Value → Result α}
    {n : Int} {v : Numeral.Value} (h : Numeral.value? (Numeral.ofInt n) = some v) :
    readNumber expected convert (ofInt n) = convert v := by
  simp only [ofInt, readNumber, numeralValue, h, bind, Except.bind]

theorem readInt64_ofInt (x : Int64) : readInt64 (ofInt x.toInt) = .ok x := by
  have hlow : -9223372036854775808 ≤ x.toInt := x.le_toInt
  have hhigh : x.toInt < 9223372036854775808 := x.toInt_lt
  have hx : Int64.ofInt x.toInt = x := Int64.ofInt_toInt x
  cases hn : x.toInt with
  | ofNat n =>
    rw [hn, Int.ofNat_eq_natCast] at hhigh
    rw [hn] at hx
    have hsize : n < UInt64.size := by simp only [UInt64.size]; omega
    have hhalf : n < int64Half := by simp only [int64Half]; omega
    rw [readInt64, readNumber_ofInt (Numeral.value?_ofNat hsize), Numeral.Value.toInt64,
      if_pos hhalf, hx]
  | negSucc n =>
    rw [hn] at hx hlow
    have hhalf : n + 1 ≤ int64Half := by simp only [int64Half]; omega
    rw [readInt64, readNumber_ofInt (Numeral.value?_negSucc hhalf), Numeral.Value.toInt64]
    exact congrArg Except.ok hx

end Document

namespace Numeral.Value

theorem toUInt64_natural (x : UInt64) : (natural x.toNat).toUInt64 = .ok x := by
  have hx : x.toNat < UInt64.size := x.toNat_lt_size
  rw [toUInt64, toNat, if_pos (by omega)]
  exact congrArg Except.ok UInt64.ofNat_toNat

theorem toUInt16_natural (x : UInt16) : (natural x.toNat).toUInt16 = .ok x := by
  have hx : x.toNat < UInt16.size := x.toNat_lt_size
  rw [toUInt16, toNat, if_pos (by omega)]
  exact congrArg Except.ok UInt16.ofNat_toNat

end Numeral.Value

theorem lt_size_of_uint16 (x : UInt16) : x.toNat < UInt64.size :=
  Nat.lt_trans x.toNat_lt_size (by decide)

namespace Document

theorem readUInt64_ofInt (x : UInt64) : readUInt64 (ofInt (Int.ofNat x.toNat)) = .ok x := by
  rw [readUInt64, readNumber_ofInt (Numeral.value?_ofNat x.toNat_lt_size),
    Numeral.Value.toUInt64_natural]

theorem readUInt16_ofInt (x : UInt16) : readUInt16 (ofInt (Int.ofNat x.toNat)) = .ok x := by
  rw [readUInt16, readNumber_ofInt (Numeral.value?_ofNat (lt_size_of_uint16 x)),
    Numeral.Value.toUInt16_natural]

end Document

/-! ### Numbers between quotes -/

namespace Quotation

theorem plainBytes_map_byte (bytes : Bytes) : plainBytes (bytes.map .byte) = bytes := by
  induction bytes with
  | nil => rfl
  | cons b bytes ih => rw [List.map_cons, plainBytes, ih]

theorem takeNumeral_of_after {state last : Numeral.State} {bytes : Bytes}
    (h : state.after bytes = some last) : takeNumeral state bytes = (bytes, some last) := by
  induction bytes generalizing state with
  | nil =>
    cases h
    rfl
  | cons b bytes ih =>
    rw [Numeral.State.after] at h
    cases hstep : state.step b with
    | goesOn next =>
      rw [hstep] at h
      simp only [takeNumeral, hstep, ih h]
    | ends => rw [hstep] at h; cases h
    | breaks => rw [hstep] at h; cases h

theorem pieces_decimal (n : Nat) :
    Json.pieces (String.ofList (decimal n)) = (Numeral.ofNat n).map .byte := by
  rw [pieces_of_isPlain, Utf8.ofString, String.toList_ofList]
  · rfl
  · intro c hc
    rw [String.toList_ofList] at hc
    have hdigit : 48 ≤ c.toNat ∧ c.toNat ≤ 57 :=
      Char.isDigit_iff_toNat.1 (Numeral.isDigit_of_mem_decimal hc)
    refine ⟨by omega, ?_, ?_⟩ <;> rintro rfl
    · exact absurd hdigit.1 (by decide)
    · exact absurd hdigit.2 (by decide)

/-- A numeral between quotes is read like the numeral. -/
theorem readNumeral_decimal {α : Type} {convert : Numeral.Value → Result α} {n : Nat}
    (hn : n < UInt64.size) {x : α} (hx : convert (.natural n) = .ok x) :
    readNumeral convert ⟨Json.pieces (String.ofList (decimal n)), none⟩ = .ok x := by
  obtain ⟨b, rest, first, last, hbytes, hstart, hafter, hcomplete⟩ :=
    Numeral.after_isNumeral (Numeral.isNumeral_ofInt (Int.ofNat n))
  have hvalue := Numeral.value?_ofNat hn
  rw [hbytes] at hvalue
  rw [Numeral.ofInt_ofNat] at hbytes
  simp only [readNumeral, pieces_decimal, hbytes, plainBytes_map_byte, hstart,
    takeNumeral_of_after hafter, hcomplete, numeralValue, hvalue, hx, if_true, bind, Except.bind,
    List.length_map, List.length_cons, and_self]

theorem readNumeral_uint16 (x : UInt16) :
    readNumeral Numeral.Value.toUInt16 ⟨Json.pieces (String.ofList (decimal x.toNat)), none⟩ =
      .ok x :=
  readNumeral_decimal (lt_size_of_uint16 x) (Numeral.Value.toUInt16_natural x)

end Quotation

end Telemetry.Json
