import Telemetry.Proofs.Failure
import Telemetry.Proofs.Text.Utf8
import Telemetry.Text.Base64

/-!
Base64 texts and bytes correspond one to one.

Four symbols of six bits hold three bytes. Reading undoes writing, and what can be read at all is
the written form of what was read: a last group that is not full has its padding, and the bits that
no byte takes are zero.
-/
namespace Telemetry.Text.Base64

theorem value?_symbol : ∀ n < 64, value? (symbol n) = some n := by decide

theorem symbol_ne_pad : ∀ n < 64, symbol n ≠ pad := by decide

/-- A symbol is known by its number. -/
theorem symbol_of_value? {b : UInt8} {n : Nat} (h : value? b = some n) : symbol n = b ∧ n < 64 := by
  have hb : UInt8.ofNat b.toNat = b := UInt8.ofNat_toNat
  unfold value? at h
  dsimp only at h
  split at h
  · cases h
    rw [symbol, if_pos (by omega), show 65 + (b.toNat - 65) = b.toNat by omega]
    exact ⟨hb, by omega⟩
  split at h
  · cases h
    rw [symbol, if_neg (by omega), if_pos (by omega),
      show 97 + (b.toNat - 97 + 26 - 26) = b.toNat by omega]
    exact ⟨hb, by omega⟩
  split at h
  · cases h
    rw [symbol, if_neg (by omega), if_neg (by omega), if_pos (by omega),
      show 48 + (b.toNat - 48 + 52 - 52) = b.toNat by omega]
    exact ⟨hb, by omega⟩
  split at h
  · next h43 =>
    cases h
    refine ⟨?_, by decide⟩
    rw [← hb, h43]
    rfl
  split at h
  · next h47 =>
    cases h
    refine ⟨?_, by decide⟩
    rw [← hb, h47]
    rfl
  · cases h

theorem valueAt_symbol {n : Nat} (h : n < 64) (offset : Nat) :
    valueAt offset (symbol n) = .ok n := by
  rw [valueAt, value?_symbol n h]

theorem symbol_of_valueAt {offset n : Nat} {b : UInt8} (h : valueAt offset b = .ok n) :
    symbol n = b ∧ n < 64 := by
  unfold valueAt at h
  split at h
  · next hn =>
    cases h
    exact symbol_of_value? hn
  · cases h

/-! ### Six bits and eight bits -/

theorem ofNat_eq {n : Nat} {b : UInt8} (h : n = b.toNat) : UInt8.ofNat n = b := by
  rw [h, UInt8.ofNat_toNat]

/-- The numbers of the four symbols of three bytes give the bytes back. -/
theorem ofNat_sixes (a b c : UInt8) :
    UInt8.ofNat (a.toNat / 4 * 4 + (a.toNat % 4 * 16 + b.toNat / 16) / 16) = a ∧
    UInt8.ofNat ((a.toNat % 4 * 16 + b.toNat / 16) % 16 * 16 +
      (b.toNat % 16 * 4 + c.toNat / 64) / 4) = b ∧
    UInt8.ofNat ((b.toNat % 16 * 4 + c.toNat / 64) % 4 * 64 + c.toNat % 64) = c := by
  have ha := a.toNat_lt
  have hb := b.toNat_lt
  have hc := c.toNat_lt
  exact ⟨ofNat_eq (by omega), ofNat_eq (by omega), ofNat_eq (by omega)⟩

/-- The three bytes of four symbols give the numbers of the symbols back. -/
theorem sixes_ofNat {x y z w : Nat} (hx : x < 64) (hy : y < 64) (hz : z < 64) (hw : w < 64) :
    let a := (UInt8.ofNat (x * 4 + y / 16)).toNat
    let b := (UInt8.ofNat (y % 16 * 16 + z / 4)).toNat
    let c := (UInt8.ofNat (z % 4 * 64 + w)).toNat
    a / 4 = x ∧ a % 4 * 16 + b / 16 = y ∧ b % 16 * 4 + c / 64 = z ∧ c % 64 = w := by
  intro a b c
  have ha : a = x * 4 + y / 16 := Utf8.toNat_ofNat (by omega)
  have hb : b = y % 16 * 16 + z / 4 := Utf8.toNat_ofNat (by omega)
  have hc : c = z % 4 * 64 + w := Utf8.toNat_ofNat (by omega)
  omega

/-! The symbols of the bytes that symbols hold. -/

section Symbols

variable {x y z w : Nat}

theorem encode_of_two (hx : x < 64) (hy : y < 64) (hbits : y % 16 = 0) :
    encode [UInt8.ofNat (x * 4 + y / 16)] = [symbol x, symbol y, pad, pad] := by
  have ha : (UInt8.ofNat (x * 4 + y / 16)).toNat = x * 4 + y / 16 := Utf8.toNat_ofNat (by omega)
  have h1 : (x * 4 + y / 16) / 4 = x := by omega
  have h2 : (x * 4 + y / 16) % 4 * 16 = y := by omega
  simp only [encode, ha, h1, h2]

theorem encode_of_three (hx : x < 64) (hy : y < 64) (hz : z < 64) (hbits : z % 4 = 0) :
    encode [UInt8.ofNat (x * 4 + y / 16), UInt8.ofNat (y % 16 * 16 + z / 4)] =
      [symbol x, symbol y, symbol z, pad] := by
  have ha : (UInt8.ofNat (x * 4 + y / 16)).toNat = x * 4 + y / 16 := Utf8.toNat_ofNat (by omega)
  have hb : (UInt8.ofNat (y % 16 * 16 + z / 4)).toNat = y % 16 * 16 + z / 4 :=
    Utf8.toNat_ofNat (by omega)
  have h1 : (x * 4 + y / 16) / 4 = x := by omega
  have h2 : (x * 4 + y / 16) % 4 * 16 + (y % 16 * 16 + z / 4) / 16 = y := by omega
  have h3 : (y % 16 * 16 + z / 4) % 16 * 4 = z := by omega
  simp only [encode, ha, hb, h1, h2, h3]

theorem encode_of_four (hx : x < 64) (hy : y < 64) (hz : z < 64) (hw : w < 64) (rest : Bytes) :
    encode (UInt8.ofNat (x * 4 + y / 16) :: UInt8.ofNat (y % 16 * 16 + z / 4) ::
      UInt8.ofNat (z % 4 * 64 + w) :: rest) =
      symbol x :: symbol y :: symbol z :: symbol w :: encode rest := by
  obtain ⟨h1, h2, h3, h4⟩ := sixes_ofNat hx hy hz hw
  simp only [encode, h1, h2, h3, h4]

end Symbols

/-! ### Reading what was written -/

theorem tailValues_symbol {n : Nat} (h : n < 64) (start index : Nat) (rest : Bytes) :
    tailValues start index 0 (symbol n :: rest) =
      (tailValues start (index + 1) 0 rest).map fun (values, padding) =>
        (n :: values, padding) := by
  rw [tailValues, if_neg (symbol_ne_pad n h), if_neg (Nat.lt_irrefl 0), valueAt_symbol h]
  cases tailValues start (index + 1) 0 rest <;> rfl

theorem tailValues_one {x y : Nat} (hx : x < 64) (hy : y < 64) (start : Nat) :
    tailValues start 0 0 [symbol x, symbol y, pad, pad] = .ok ([x, y], 2) := by
  rw [tailValues_symbol hx, tailValues_symbol hy]
  rfl

theorem tailValues_two {x y z : Nat} (hx : x < 64) (hy : y < 64) (hz : z < 64) (start : Nat) :
    tailValues start 0 0 [symbol x, symbol y, symbol z, pad] = .ok ([x, y, z], 1) := by
  rw [tailValues_symbol hx, tailValues_symbol hy, tailValues_symbol hz]
  rfl

theorem tailValues_three {x y z w : Nat} (hx : x < 64) (hy : y < 64) (hz : z < 64) (hw : w < 64)
    (start : Nat) :
    tailValues start 0 0 [symbol x, symbol y, symbol z, symbol w] = .ok ([x, y, z, w], 0) := by
  rw [tailValues_symbol hx, tailValues_symbol hy, tailValues_symbol hz, tailValues_symbol hw]
  rfl

/-! The last group, by the count of its symbols. -/

section LastGroup

variable {start padding x y z w : Nat} {group : Bytes} {more : List Nat}

theorem decodeTail_of_two (h : tailValues start 0 0 group = .ok ([x, y], padding)) :
    decodeTail start group =
      if padding ≠ 2 then .error .padding
      else if y % 16 ≠ 0 then .error (.lastSymbol (symbol y) (start + 1))
      else .ok [UInt8.ofNat (x * 4 + y / 16)] := by
  rw [decodeTail, h]
  rfl

theorem decodeTail_of_three (h : tailValues start 0 0 group = .ok ([x, y, z], padding)) :
    decodeTail start group =
      if padding ≠ 1 then .error .padding
      else if z % 4 ≠ 0 then .error (.lastSymbol (symbol z) (start + 2))
      else .ok [UInt8.ofNat (x * 4 + y / 16), UInt8.ofNat (y % 16 * 16 + z / 4)] := by
  rw [decodeTail, h]
  rfl

theorem decodeTail_of_four
    (h : tailValues start 0 0 group = .ok (x :: y :: z :: w :: more, padding)) :
    decodeTail start group =
      .ok [UInt8.ofNat (x * 4 + y / 16), UInt8.ofNat (y % 16 * 16 + z / 4),
        UInt8.ofNat (z % 4 * 64 + w)] := by
  rw [decodeTail, h]
  rfl

end LastGroup

theorem decodeFrom_encode (bytes : Bytes) (start : Nat) :
    decodeFrom start (encode bytes) = .ok bytes := by
  induction bytes using encode.induct generalizing start with
  | case1 => rfl
  | case2 a =>
    have ha := a.toNat_lt
    have hbyte : UInt8.ofNat (a.toNat / 4 * 4 + a.toNat % 4 * 16 / 16) = a := ofNat_eq (by omega)
    simp only [encode, decodeFrom]
    rw [decodeTail_of_two (tailValues_one (by omega) (by omega) start), if_neg (by omega),
      if_neg (by omega), hbyte]
  | case3 a b =>
    have ha := a.toNat_lt
    have hb := b.toNat_lt
    have hfirst : UInt8.ofNat (a.toNat / 4 * 4 + (a.toNat % 4 * 16 + b.toNat / 16) / 16) = a :=
      ofNat_eq (by omega)
    have hsecond : UInt8.ofNat ((a.toNat % 4 * 16 + b.toNat / 16) % 16 * 16 +
        b.toNat % 16 * 4 / 4) = b := ofNat_eq (by omega)
    simp only [encode, decodeFrom]
    rw [decodeTail_of_three (tailValues_two (by omega) (by omega) (by omega) start),
      if_neg (by omega), if_neg (by omega), hfirst, hsecond]
  | case4 a b c rest ih =>
    have ha := a.toNat_lt
    have hb := b.toNat_lt
    have hc := c.toNat_lt
    obtain ⟨hfirst, hsecond, hthird⟩ := ofNat_sixes a b c
    cases hrest : encode rest with
    | nil =>
      have hnil : rest = [] := by
        have h := ih start
        rw [hrest] at h
        cases h
        rfl
      simp only [encode, hrest, decodeFrom]
      rw [decodeTail_of_four (tailValues_three (by omega) (by omega) (by omega) (by omega) start),
        hfirst, hsecond, hthird, hnil]
    | cons e more =>
      have h := ih (start + 4)
      rw [hrest] at h
      simp only [encode, hrest, decodeFrom]
      rw [valueAt_symbol (by omega), valueAt_symbol (by omega), valueAt_symbol (by omega),
        valueAt_symbol (by omega), h]
      show Except.ok (_ :: _ :: _ :: rest) = _
      rw [hfirst, hsecond, hthird]

theorem length_encode_mod (bytes : Bytes) : (encode bytes).length % 4 = 0 := by
  induction bytes using encode.induct with
  | case1 => rfl
  | case2 a => simp [encode]
  | case3 a b => simp [encode]
  | case4 a b c rest ih =>
    simp only [encode, List.length_cons]
    omega

theorem decode_encode (bytes : Bytes) : decode (encode bytes) = .ok bytes := by
  have hstray : strayEnd? (encode bytes) = none := by
    rw [strayEnd?, if_neg (by have h := length_encode_mod bytes; omega)]
  rw [decode, hstray]
  exact decodeFrom_encode bytes 0

/-- What texts consist of. -/
theorem mem_encode {bytes : Bytes} {b : UInt8} (h : b ∈ encode bytes) :
    b = pad ∨ ∃ n < 64, b = symbol n := by
  induction bytes using encode.induct with
  | case1 => cases h
  | case2 x =>
    have hx := x.toNat_lt
    simp only [encode, List.mem_cons, List.not_mem_nil, or_false] at h
    rcases h with h | h | h | h
    · exact Or.inr ⟨_, by omega, h⟩
    · exact Or.inr ⟨_, by omega, h⟩
    · exact Or.inl h
    · exact Or.inl h
  | case3 x y =>
    have hx := x.toNat_lt
    have hy := y.toNat_lt
    simp only [encode, List.mem_cons, List.not_mem_nil, or_false] at h
    rcases h with h | h | h | h
    · exact Or.inr ⟨_, by omega, h⟩
    · exact Or.inr ⟨_, by omega, h⟩
    · exact Or.inr ⟨_, by omega, h⟩
    · exact Or.inl h
  | case4 x y z rest ih =>
    have hx := x.toNat_lt
    have hy := y.toNat_lt
    have hz := z.toNat_lt
    simp only [encode, List.mem_cons] at h
    rcases h with h | h | h | h | h
    · exact Or.inr ⟨_, by omega, h⟩
    · exact Or.inr ⟨_, by omega, h⟩
    · exact Or.inr ⟨_, by omega, h⟩
    · exact Or.inr ⟨_, by omega, h⟩
    · exact ih h

/-! ### Only what was written can be read -/

/-- The last group is its symbols and then its padding. -/
theorem eq_of_tailValues {start index padding : Nat} {group : Bytes} {values : List Nat}
    {total : Nat} (h : tailValues start index padding group = .ok (values, total)) :
    group = values.map symbol ++ List.replicate (total - padding) pad ∧ padding ≤ total ∧
      (∀ n ∈ values, n < 64) ∧ (0 < padding → values = []) := by
  induction group generalizing index padding values total with
  | nil =>
    cases h
    simp
  | cons b rest ih =>
    unfold tailValues at h
    split at h
    · next hb =>
      split at h
      · cases h
      -- no symbol comes after padding: this is why the last conjunct is carried along
      · obtain ⟨hrest, hle, -, hnil⟩ := ih h
        have hvalues := hnil (by omega)
        subst hvalues
        refine ⟨?_, by omega, by simp, fun _ => rfl⟩
        rw [hrest, hb, show total - padding = total - (padding + 1) + 1 by omega,
          List.replicate_succ]
        rfl
    · split at h
      · cases h
      · next hpadding =>
        obtain ⟨n, hn, h⟩ := bind_eq_ok.1 h
        obtain ⟨⟨ns, t⟩, hmore, h⟩ := bind_eq_ok.1 h
        cases h
        obtain ⟨hrest, hle, hlt, -⟩ := ih hmore
        obtain ⟨hsymbol, hn64⟩ := symbol_of_valueAt hn
        refine ⟨?_, hle, ?_, fun hpos => absurd hpos hpadding⟩
        · rw [List.map_cons, hsymbol, List.cons_append, ← hrest]
        · intro m hm
          rcases List.mem_cons.1 hm with rfl | hm
          · exact hn64
          · exact hlt m hm

theorem eq_encode_of_decodeTail {start : Nat} {group bytes : Bytes} (hlength : group.length ≤ 4)
    (h : decodeTail start group = .ok bytes) : group = encode bytes := by
  obtain ⟨⟨values, padding⟩, hvalues, -⟩ := bind_eq_ok.1 h
  obtain ⟨hgroup, -, hlt, -⟩ := eq_of_tailValues hvalues
  rw [Nat.sub_zero] at hgroup
  match values with
  | [] =>
    rw [decodeTail, hvalues] at h
    cases group with
    | nil =>
      cases h
      rfl
    | cons b rest => cases h
  | [x] =>
    rw [decodeTail, hvalues] at h
    cases h
  | [x, y] =>
    rw [decodeTail_of_two hvalues] at h
    split at h
    · cases h
    split at h
    · cases h
    next hpadding hbits =>
      cases h
      rw [encode_of_two (hlt x (by simp)) (hlt y (by simp)) (Classical.not_not.1 hbits), hgroup,
        Classical.not_not.1 hpadding]
      rfl
  | [x, y, z] =>
    rw [decodeTail_of_three hvalues] at h
    split at h
    · cases h
    split at h
    · cases h
    next hpadding hbits =>
      cases h
      rw [encode_of_three (hlt x (by simp)) (hlt y (by simp)) (hlt z (by simp))
        (Classical.not_not.1 hbits), hgroup, Classical.not_not.1 hpadding]
      rfl
  | x :: y :: z :: w :: more =>
    rw [decodeTail_of_four hvalues] at h
    cases h
    have hfull : more = [] ∧ padding = 0 := by
      rw [hgroup] at hlength
      simp only [List.length_append, List.length_map, List.length_cons,
        List.length_replicate] at hlength
      exact ⟨List.eq_nil_of_length_eq_zero (by omega), by omega⟩
    rw [encode_of_four (hlt x (by simp)) (hlt y (by simp)) (hlt z (by simp)) (hlt w (by simp)),
      hgroup, hfull.1, hfull.2]
    rfl

theorem eq_encode_of_decodeFrom {start : Nat} {text bytes : Bytes}
    (h : decodeFrom start text = .ok bytes) : text = encode bytes := by
  induction start, text using decodeFrom.induct generalizing bytes with
  | case1 start a b c d e rest ih =>
    unfold decodeFrom at h
    obtain ⟨x, ha, h⟩ := bind_eq_ok.1 h
    obtain ⟨y, hb, h⟩ := bind_eq_ok.1 h
    obtain ⟨z, hc, h⟩ := bind_eq_ok.1 h
    obtain ⟨w, hd, h⟩ := bind_eq_ok.1 h
    obtain ⟨more, hmore, h⟩ := bind_eq_ok.1 h
    cases h
    obtain ⟨hxa, hx⟩ := symbol_of_valueAt ha
    obtain ⟨hyb, hy⟩ := symbol_of_valueAt hb
    obtain ⟨hzc, hz⟩ := symbol_of_valueAt hc
    obtain ⟨hwd, hw⟩ := symbol_of_valueAt hd
    rw [encode_of_four hx hy hz hw, hxa, hyb, hzc, hwd, ← ih hmore]
  | case2 start group hshort =>
    have hlength : group.length ≤ 4 := by
      match group, hshort with
      | [], _ | [_], _ | [_, _], _ | [_, _, _], _ | [_, _, _, _], _ => simp
      | a :: b :: c :: d :: e :: rest, hshort => exact absurd rfl (hshort a b c d e rest)
    have htail : decodeTail start group = .ok bytes := by
      rw [← h, decodeFrom]
      exact hshort
    exact eq_encode_of_decodeTail hlength htail

/-- Bytes are read from their written form and from no other text. -/
theorem decode_eq_ok_iff {text bytes : Bytes} : decode text = .ok bytes ↔ text = encode bytes := by
  constructor
  · intro h
    unfold decode at h
    split at h
    · cases h
    · exact eq_encode_of_decodeFrom h
  · rintro rfl
    exact decode_encode bytes

end Telemetry.Text.Base64
