import Telemetry.Proofs.Json.Record

/-!
Documents on one line.

The control characters of a string are escaped, and numerals, words and punctuation have none. So
no byte of a document is below a blank, and a document never breaks a line, whatever its strings
hold.
-/
namespace Telemetry.Json

theorem le_of_all {bs : Bytes} (h : (bs.all fun b => decide (0x20 ≤ b)) = true) :
    ∀ b ∈ bs, 0x20 ≤ b := by
  intro b hb
  exact of_decide_eq_true (List.all_eq_true.1 h b hb)

namespace Numeral

theorem le_of_isDigit {b : UInt8} (h : isDigit b = true) : 0x20 ≤ b := by
  have hb : 0x30 ≤ b.toNat := by
    rw [isDigit, Bool.and_eq_true, decide_eq_true_eq] at h
    exact UInt8.le_iff_toNat_le.1 h.1
  show 0x20 ≤ b.toNat
  omega

theorem le_of_isDigits {ds : Bytes} (h : IsDigits ds) : ∀ b ∈ ds, 0x20 ≤ b :=
  fun b hb => le_of_isDigit (h.2 b hb)

theorem le_of_isNumeral {n : Bytes} (h : IsNumeral n) : ∀ b ∈ n, 0x20 ≤ b := by
  obtain ⟨sign, whole, fraction, power, rfl, hsign, hwhole, hfraction, hpower⟩ := h
  have hsign : ∀ b ∈ sign, 0x20 ≤ b := by
    rcases hsign with rfl | rfl <;> exact le_of_all rfl
  have hwhole : ∀ b ∈ whole, 0x20 ≤ b := by
    rcases hwhole with rfl | ⟨hdigits, -⟩
    · exact le_of_all rfl
    · exact le_of_isDigits hdigits
  have hfraction : ∀ b ∈ fraction, 0x20 ≤ b := by
    rcases hfraction with rfl | ⟨ds, rfl, hdigits⟩
    · exact le_of_all rfl
    · exact List.forall_mem_cons.2 ⟨by decide, le_of_isDigits hdigits⟩
  have hpower : ∀ b ∈ power, 0x20 ≤ b := by
    rcases hpower with rfl | ⟨mark, sign, ds, rfl, hmark, hsign, hdigits⟩
    · exact le_of_all rfl
    · refine List.forall_mem_cons.2 ⟨?_, List.forall_mem_append.2 ⟨?_, le_of_isDigits hdigits⟩⟩
      · rcases hmark with rfl | rfl <;> decide
      · rcases hsign with rfl | rfl | rfl <;> exact le_of_all rfl
  exact List.forall_mem_append.2 ⟨hsign, List.forall_mem_append.2 ⟨hwhole,
    List.forall_mem_append.2 ⟨hfraction, hpower⟩⟩⟩

end Numeral

theorem le_of_isEscapeLetter {b : UInt8} (h : isEscapeLetter b = true) : 0x20 ≤ b := by
  simp only [isEscapeLetter, Bool.or_eq_true, beq_iff_eq] at h
  rcases h with ((((((rfl | rfl) | rfl) | rfl) | rfl) | rfl) | rfl) | rfl <;> decide

theorem le_of_isHexDigit {b : UInt8} (h : isHexDigit b = true) : 0x20 ≤ b := by
  simp only [isHexDigit, Bool.or_eq_true, Bool.and_eq_true, decide_eq_true_eq] at h
  show 0x20 ≤ b.toNat
  rcases h with (hdigit | ⟨hupper, -⟩) | ⟨hlower, -⟩
  · exact Numeral.le_of_isDigit hdigit
  · have hb : 0x41 ≤ b.toNat := UInt8.le_iff_toNat_le.1 hupper
    omega
  · have hb : 0x61 ≤ b.toNat := UInt8.le_iff_toNat_le.1 hlower
    omega

theorem Piece.le_of_mem_bytes {p : Piece} (h : p.IsValid) : ∀ b ∈ p.bytes, 0x20 ≤ b := by
  cases p with
  | byte b => exact List.forall_mem_singleton.2 h.1
  | escape letter =>
    exact List.forall_mem_cons.2 ⟨by decide, List.forall_mem_singleton.2 (le_of_isEscapeLetter h)⟩
  | unit a b c d =>
    obtain ⟨ha, hb, hc, hd⟩ := h
    simp only [bytes, List.forall_mem_cons]
    exact ⟨by decide, by decide, le_of_isHexDigit ha, le_of_isHexDigit hb, le_of_isHexDigit hc,
      le_of_isHexDigit hd, fun _ hnone => absurd hnone List.not_mem_nil⟩

theorem Token.le_of_mem_bytes {t : Token} (h : t.IsValid) : ∀ b ∈ t.bytes, 0x20 ≤ b := by
  cases t with
  | openArray | closeArray | openObject | closeObject | comma | colon => exact le_of_all rfl
  | word w => cases w <;> exact le_of_all rfl
  | number n => exact Numeral.le_of_isNumeral h
  | text pieces =>
    have hpieces : ∀ b ∈ pieces.flatMap Piece.bytes, 0x20 ≤ b := by
      intro b hb
      obtain ⟨p, hp, hb⟩ := List.mem_flatMap.1 hb
      exact Piece.le_of_mem_bytes (h p hp) b hb
    exact List.forall_mem_cons.2 ⟨by decide, List.forall_mem_append.2 ⟨hpieces, le_of_all rfl⟩⟩
  | faulty fault => cases h

/-- No byte of a document is a control character. -/
theorem Document.le_of_mem_bytes {d : Document} (hd : d.IsValid) : ∀ b ∈ d.bytes, 0x20 ≤ b := by
  intro b hb
  obtain ⟨t, ht, hb⟩ := List.mem_flatMap.1 hb
  exact Token.le_of_mem_bytes (d.isValid_of_mem_tokens hd t ht) b hb

end Telemetry.Json
