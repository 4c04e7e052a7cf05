import Telemetry.Text.Utf8

/-!
Text written as UTF-8 is read back.

A character takes one to four bytes. The reader sees from the first one how many follow and which
numbers they may make up; these are the numbers of the characters that are written so, and the
bytes after them are read as if nothing had come before.
-/
namespace Telemetry.Text.Utf8

theorem toNat_ofNat {n : Nat} (h : n < 256) : (UInt8.ofNat n).toNat = n :=
  UInt8.toNat_ofNat_of_lt' h

theorem lead_single {b : UInt8} (h : b.toNat < 0x80) : lead b = .single (Char.ofNat b.toNat) := by
  simp [lead, UInt8.lt_iff_toNat_lt, h]

theorem lead_two {b : UInt8} {q : Nat} (hb : b.toNat = 0xC0 + q) (hlow : 2 ≤ q) (hhigh : q < 32) :
    lead b = .opens 0 0x80 0xBF q := by
  have h1 : ¬ 0xC0 + q < 0x80 := by omega
  have h2 : ¬ 0xC0 + q < 0xC2 := by omega
  have h3 : 0xC0 + q < 0xE0 := by omega
  simp [lead, UInt8.lt_iff_toNat_lt, hb, h1, h2, h3]

/-- Overlong forms are ruled out where the first bits are all zero, surrogates at `0xED`. -/
theorem lead_three {b : UInt8} {q : Nat} (hb : b.toNat = 0xE0 + q) (hhigh : q < 16) :
    lead b = .opens 1 (if q = 0 then 0xA0 else 0x80) (if q = 13 then 0x9F else 0xBF) q := by
  have h1 : ¬ 0xE0 + q < 0x80 := by omega
  have h2 : ¬ 0xE0 + q < 0xC2 := by omega
  have h3 : 0xE0 + q < 0xF0 := by omega
  by_cases h0 : q = 0
  · simp [lead, UInt8.lt_iff_toNat_lt, ← UInt8.toNat_inj, hb, h0]
  by_cases h13 : q = 13
  · simp [lead, UInt8.lt_iff_toNat_lt, ← UInt8.toNat_inj, hb, h13]
  have h4 : ¬ 0xE0 + q = 237 := by omega
  simp [lead, UInt8.lt_iff_toNat_lt, ← UInt8.toNat_inj, hb, h1, h2, h3, h0, h13, h4]

theorem lead_four {b : UInt8} {q : Nat} (hb : b.toNat = 0xF0 + q) (hhigh : q < 5) :
    lead b = .opens 2 (if q = 0 then 0x90 else 0x80) (if q = 4 then 0x8F else 0xBF) q := by
  have h1 : ¬ 0xF0 + q < 0x80 := by omega
  have h2 : ¬ 0xF0 + q < 0xC2 := by omega
  have h3 : ¬ 0xF0 + q < 0xE0 := by omega
  have h4 : ¬ 0xF0 + q < 0xF0 := by omega
  by_cases h0 : q = 0
  · simp [lead, UInt8.lt_iff_toNat_lt, ← UInt8.toNat_inj, hb, h0]
  by_cases hlast : q = 4
  · simp [lead, UInt8.lt_iff_toNat_lt, ← UInt8.toNat_inj, hb, hlast]
  have h5 : ¬ 0xF0 + q = 224 ∧ ¬ 0xF0 + q = 237 ∧ 0xF0 + q < 244 := by omega
  simp [lead, UInt8.lt_iff_toNat_lt, ← UInt8.toNat_inj, hb, h1, h2, h3, h4, h0, hlast, h5]

theorem scan_single {b : UInt8} {c : Char} (h : lead b = .single c) (rest : Bytes) :
    scan .between (b :: rest) = some c :: scan .between rest := by
  rw [scan, h]

theorem scan_opens {b low high : UInt8} {more bits : Nat} (h : lead b = .opens more low high bits)
    (rest : Bytes) : scan .between (b :: rest) = scan (.inside more low high bits) rest := by
  rw [scan, h]

/-- A byte that goes on with a character and is not its last one. -/
theorem scan_more {low high b : UInt8} {x : Nat} (hb : b.toNat = 0x80 + x)
    (hlow : low.toNat ≤ 0x80 + x) (hhigh : 0x80 + x ≤ high.toNat) (more bits : Nat)
    (rest : Bytes) :
    scan (.inside (more + 1) low high bits) (b :: rest) =
      scan (.inside more 0x80 0xBF (bits * 64 + x)) rest := by
  have h : low ≤ b ∧ b ≤ high := by
    rw [UInt8.le_iff_toNat_le, UInt8.le_iff_toNat_le, hb]
    exact ⟨hlow, hhigh⟩
  rw [scan, if_pos h, hb, Nat.add_sub_cancel_left]

/-- The last byte of a character. -/
theorem scan_last {low high b : UInt8} {x : Nat} (hb : b.toNat = 0x80 + x)
    (hlow : low.toNat ≤ 0x80 + x) (hhigh : 0x80 + x ≤ high.toNat) (bits : Nat) (rest : Bytes) :
    scan (.inside 0 low high bits) (b :: rest) =
      some (Char.ofNat (bits * 64 + x)) :: scan .between rest := by
  have h : low ≤ b ∧ b ≤ high := by
    rw [UInt8.le_iff_toNat_le, UInt8.le_iff_toNat_le, hb]
    exact ⟨hlow, hhigh⟩
  rw [scan, if_pos h, hb, Nat.add_sub_cancel_left]

/-- The bounds of all bytes but the first and the second of a character. -/
theorem continues {x : Nat} (hx : x < 64) :
    (0x80 : UInt8).toNat ≤ 0x80 + x ∧ 0x80 + x ≤ (0xBF : UInt8).toNat := by
  have h1 : (0x80 : UInt8).toNat = 0x80 := rfl
  have h2 : (0xBF : UInt8).toNat = 0xBF := rfl
  omega

/-- A written character is read back, whatever follows it. -/
theorem scan_encodeChar (c : Char) (rest : Bytes) :
    scan .between (encodeChar c ++ rest) = some c :: scan .between rest := by
  have hvalid : c.toNat < 0xD800 ∨ 0xDFFF < c.toNat ∧ c.toNat < 0x110000 := c.valid
  have hofNat : Char.ofNat c.toNat = c := Char.ofNat_toNat c
  unfold encodeChar
  generalize c.toNat = n at hvalid hofNat
  dsimp only
  have hlast : n % 64 < 64 := Nat.mod_lt _ (by decide)
  have hthird : n / 64 % 64 < 64 := Nat.mod_lt _ (by decide)
  have hsecond : n / 4096 % 64 < 64 := Nat.mod_lt _ (by decide)
  have byte : ∀ x, x < 64 → (UInt8.ofNat (0x80 + x)).toNat = 0x80 + x := fun x hx =>
    toNat_ofNat (by omega)
  -- by the length of the written form; where it is three or four, the lead narrows the second byte
  split
  · next hn =>
    have hb := toNat_ofNat (n := n) (by omega)
    have hlead := lead_single (b := UInt8.ofNat n) (by omega)
    rw [hb, hofNat] at hlead
    exact scan_single hlead rest
  split
  · next hn =>
    have hlead := lead_two (toNat_ofNat (n := 0xC0 + n / 64) (by omega)) (by omega) (by omega)
    have hbits : n / 64 * 64 + n % 64 = n := by omega
    simp only [List.cons_append, List.nil_append]
    rw [scan_opens hlead, scan_last (byte _ hlast) (continues hlast).1 (continues hlast).2, hbits,
      hofNat]
  split
  · next hn =>
    have hlead := lead_three (toNat_ofNat (n := 0xE0 + n / 4096) (by omega)) (by omega)
    have hbits : (n / 4096 * 64 + n / 64 % 64) * 64 + n % 64 = n := by omega
    have hlow : (if n / 4096 = 0 then 0xA0 else 0x80 : UInt8).toNat ≤ 0x80 + n / 64 % 64 := by
      split
      · show 0xA0 ≤ _
        omega
      · exact (continues hthird).1
    have hhigh : 0x80 + n / 64 % 64 ≤ (if n / 4096 = 13 then 0x9F else 0xBF : UInt8).toNat := by
      split
      · show _ ≤ 0x9F
        omega
      · exact (continues hthird).2
    simp only [List.cons_append, List.nil_append]
    rw [scan_opens hlead, scan_more (byte _ hthird) hlow hhigh,
      scan_last (byte _ hlast) (continues hlast).1 (continues hlast).2, hbits, hofNat]
  · have hlead := lead_four (toNat_ofNat (n := 0xF0 + n / 262144) (by omega)) (by omega)
    have hbits : ((n / 262144 * 64 + n / 4096 % 64) * 64 + n / 64 % 64) * 64 + n % 64 = n := by
      omega
    have hlow : (if n / 262144 = 0 then 0x90 else 0x80 : UInt8).toNat ≤ 0x80 + n / 4096 % 64 := by
      split
      · show 0x90 ≤ _
        omega
      · exact (continues hsecond).1
    have hhigh : 0x80 + n / 4096 % 64 ≤ (if n / 262144 = 4 then 0x8F else 0xBF : UInt8).toNat := by
      split
      · show _ ≤ 0x8F
        omega
      · exact (continues hsecond).2
    simp only [List.cons_append, List.nil_append]
    rw [scan_opens hlead, scan_more (byte _ hsecond) hlow hhigh,
      scan_more (byte _ hthird) (continues hthird).1 (continues hthird).2,
      scan_last (byte _ hlast) (continues hlast).1 (continues hlast).2, hbits, hofNat]

theorem scan_encode (s : List Char) : scan .between (encode s) = s.map some := by
  induction s with
  | nil => rfl
  | cons c s ih =>
    have h : encode (c :: s) = encodeChar c ++ encode s := rfl
    rw [h, scan_encodeChar, ih, List.map_cons]

theorem decode_encode (s : List Char) : decode (encode s) = some s := by
  rw [decode, scan_encode, allPresent_map_some]

theorem toString?_ofString (s : String) : toString? (ofString s) = some s := by
  rw [toString?, ofString, decode_encode, Option.map_some, String.ofList_toList]

theorem ofString_inj {s t : String} (h : ofString s = ofString t) : s = t := by
  have hs := toString?_ofString s
  rw [h, toString?_ofString] at hs
  exact (Option.some.inj hs).symm

/-! ### ASCII -/

theorem encodeChar_of_lt {c : Char} (h : c.toNat < 0x80) :
    encodeChar c = [UInt8.ofNat c.toNat] := by
  rw [encodeChar, if_pos h]

/-- Bytes below `0x80` are only in characters of one byte. -/
theorem mem_encodeChar {c : Char} {b : UInt8} (h : b ∈ encodeChar c) :
    c.toNat < 0x80 ∧ b.toNat = c.toNat ∨ 0x80 ≤ c.toNat ∧ 0x80 ≤ b.toNat := by
  have hvalid : c.toNat < 0xD800 ∨ 0xDFFF < c.toNat ∧ c.toNat < 0x110000 := c.valid
  unfold encodeChar at h
  generalize c.toNat = n at h hvalid ⊢
  dsimp only at h
  split at h
  · next hn =>
    rw [List.mem_singleton.1 h, toNat_ofNat (by omega)]
    exact Or.inl ⟨hn, rfl⟩
  refine Or.inr ⟨by omega, ?_⟩
  split at h
  · simp only [List.mem_cons, List.not_mem_nil, or_false] at h
    rcases h with rfl | rfl <;> rw [toNat_ofNat (by omega)] <;> omega
  split at h
  · simp only [List.mem_cons, List.not_mem_nil, or_false] at h
    rcases h with rfl | rfl | rfl <;> rw [toNat_ofNat (by omega)] <;> omega
  · simp only [List.mem_cons, List.not_mem_nil, or_false] at h
    rcases h with rfl | rfl | rfl | rfl <;> rw [toNat_ofNat (by omega)] <;> omega

theorem encode_of_ascii {cs : List Char} (h : ∀ c ∈ cs, c.toNat < 0x80) :
    encode cs = cs.map fun c => UInt8.ofNat c.toNat := by
  induction cs with
  | nil => rfl
  | cons c cs ih =>
    have hrest := ih fun d hd => h d (List.mem_cons_of_mem _ hd)
    rw [encode, List.flatMap_cons, encodeChar_of_lt (h c List.mem_cons_self), List.map_cons,
      ← hrest]
    rfl

/-- The character of an ASCII byte. -/
def asciiChar (b : UInt8) : Char := Char.ofNat b.toNat

theorem toNat_asciiChar : ∀ b : UInt8, b.toNat < 0x80 → (asciiChar b).toNat = b.toNat := by
  have h : ∀ n < 0x80, (Char.ofNat n).toNat = n := by decide
  exact fun b hb => h b.toNat hb

theorem encode_asciiChar {bytes : Bytes} (h : ∀ b ∈ bytes, b.toNat < 0x80) :
    encode (bytes.map asciiChar) = bytes := by
  have hascii : ∀ c ∈ bytes.map asciiChar, c.toNat < 0x80 := by
    intro c hc
    obtain ⟨b, hb, rfl⟩ := List.mem_map.1 hc
    rw [toNat_asciiChar b (h b hb)]
    exact h b hb
  rw [encode_of_ascii hascii, List.map_map]
  refine (List.map_congr_left fun b hb => ?_).trans (List.map_id bytes)
  show UInt8.ofNat (asciiChar b).toNat = b
  rw [toNat_asciiChar b (h b hb), UInt8.ofNat_toNat]

end Telemetry.Text.Utf8
