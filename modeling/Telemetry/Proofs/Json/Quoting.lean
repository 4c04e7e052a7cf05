import Telemetry.Json.Reader
import Telemetry.Proofs.Json.Grammar
import Telemetry.Proofs.Text.Utf8

/-!
Strings between quotes.

Every string is written in valid pieces, which stand for its UTF-8 bytes and are read back as the
string. A string that needs no escape is written as its bytes are.
-/
namespace Telemetry.Json

open Text

/-- A character that is written as its bytes are. -/
def IsPlain (c : Char) : Prop := 0x20 ≤ c.toNat ∧ c ≠ '\"' ∧ c ≠ '\\'

theorem piecesOf_of_isPlain {c : Char} (h : IsPlain c) :
    piecesOf c = (Utf8.encodeChar c).map .byte := by
  obtain ⟨hcontrol, hquote, hbackslash⟩ := h
  have hne : ∀ d : Char, d.toNat < 0x20 → c ≠ d := by
    rintro d hd rfl
    omega
  rw [piecesOf, if_neg hquote, if_neg hbackslash, if_neg (by omega), if_neg (by omega),
    if_neg (hne _ (by decide)), if_neg (hne _ (by decide)), if_neg (hne _ (by decide)),
    if_neg (by omega)]

theorem pieces_of_isPlain {s : String} (h : ∀ c ∈ s.toList, IsPlain c) :
    pieces s = (Utf8.ofString s).map .byte := by
  rw [pieces, Utf8.ofString, Utf8.encode, List.map_flatMap]
  exact List.flatMap_congr fun c hc => piecesOf_of_isPlain (h c hc)

/-! ### Pieces are valid -/

theorem isHexDigit_hexDigit : ∀ n < 16, isHexDigit (hexDigit n) = true := by decide

theorem isValid_byte {c : Char} (hc : IsPlain c) {b : UInt8} (hb : b ∈ Utf8.encodeChar c) :
    (Piece.byte b).IsValid := by
  obtain ⟨hcontrol, hquote, hbackslash⟩ := hc
  have hne : ∀ d : Char, c ≠ d → c.toNat ≠ d.toNat := fun d hd h => hd (Char.toNat_inj.1 h)
  have h22 : c.toNat ≠ 0x22 := hne '\"' hquote
  have h5C : c.toNat ≠ 0x5C := hne '\\' hbackslash
  have hbyte := Utf8.mem_encodeChar hb
  refine ⟨UInt8.le_iff_toNat_le.2 ?_, fun h => ?_, fun h => ?_⟩
  · show 0x20 ≤ b.toNat
    omega
  · have : b.toNat = 0x22 := by rw [h]; rfl
    omega
  · have : b.toNat = 0x5C := by rw [h]; rfl
    omega

theorem isValid_of_mem_piecesOf {c : Char} {p : Piece} (hp : p ∈ piecesOf c) : p.IsValid := by
  unfold piecesOf at hp
  split at hp
  · rw [List.mem_singleton.1 hp]; rfl
  split at hp
  · rw [List.mem_singleton.1 hp]; rfl
  split at hp
  · rw [List.mem_singleton.1 hp]; rfl
  split at hp
  · rw [List.mem_singleton.1 hp]; rfl
  split at hp
  · rw [List.mem_singleton.1 hp]; rfl
  split at hp
  · rw [List.mem_singleton.1 hp]; rfl
  split at hp
  · rw [List.mem_singleton.1 hp]; rfl
  split at hp
  · rw [List.mem_singleton.1 hp]
    exact ⟨rfl, rfl, isHexDigit_hexDigit _ (by omega), isHexDigit_hexDigit _ (by omega)⟩
  · next hquote hbackslash _ _ _ _ _ hcontrol =>
    obtain ⟨b, hb, rfl⟩ := List.mem_map.1 hp
    exact isValid_byte ⟨by omega, hquote, hbackslash⟩ hb

theorem isValid_of_mem_pieces {s : String} : ∀ p ∈ pieces s, p.IsValid := by
  intro p hp
  obtain ⟨c, -, hc⟩ := List.mem_flatMap.1 hp
  exact isValid_of_mem_piecesOf hc

/-! ### Pieces stand for the string -/

namespace Quotation

theorem pieceBytes_map_byte (cut : Option Cut) (bytes : Bytes) (rest : List Piece) :
    pieceBytes cut (bytes.map .byte ++ rest) = (pieceBytes cut rest).map (bytes ++ ·) := by
  induction bytes with
  | nil => cases h : pieceBytes cut rest <;> simp [h, Except.map]
  | cons b bytes ih =>
    rw [List.map_cons, List.cons_append, pieceBytes, ih]
    cases pieceBytes cut rest <;> rfl

theorem hexValue_hexDigit : ∀ n < 16, hexValue (hexDigit n) = n := by decide

theorem pieceBytes_piecesOf (cut : Option Cut) (c : Char) (rest : List Piece) :
    pieceBytes cut (piecesOf c ++ rest) =
      (pieceBytes cut rest).map (Utf8.encodeChar c ++ ·) := by
  -- seven characters with letters of their own, the other controls, and all that stand as they are
  unfold piecesOf
  split
  · next h => subst h; rfl
  split
  · next h => subst h; rfl
  split
  · next h => rw [Utf8.encodeChar_of_lt (by omega), h]; rfl
  split
  · next h => rw [Utf8.encodeChar_of_lt (by omega), h]; rfl
  split
  · next h => subst h; rfl
  split
  · next h => subst h; rfl
  split
  · next h => subst h; rfl
  split
  · next h =>
    have hunit : unitValue 0x30 0x30 (hexDigit (c.toNat / 16)) (hexDigit (c.toNat % 16)) =
        c.toNat := by
      rw [unitValue, hexValue_hexDigit _ (by omega), hexValue_hexDigit _ (by omega)]
      show (0 * 16 + c.toNat / 16) * 16 + c.toNat % 16 = c.toNat
      omega
    rw [List.singleton_append, pieceBytes.eq_def]
    dsimp only
    rw [hunit, if_neg (by omega), if_neg (by omega), Char.ofNat_toNat]
  · exact pieceBytes_map_byte cut _ rest

theorem pieceBytes_pieces (s : String) :
    pieceBytes none (Json.pieces s) = .ok (Utf8.ofString s) := by
  have h : ∀ cs : List Char, pieceBytes none (cs.flatMap piecesOf) = .ok (Utf8.encode cs) := by
    intro cs
    induction cs with
    | nil => rfl
    | cons c cs ih =>
      rw [List.flatMap_cons, pieceBytes_piecesOf, ih]
      rfl
  exact h s.toList

/-- A written string is read back. -/
theorem read_pieces (s : String) : read ⟨Json.pieces s, none⟩ = .ok s := by
  simp only [read, pieceBytes_pieces, Utf8.toString?_ofString, bind, Except.bind]

end Quotation

namespace Document

theorem isValid_ofString (s : String) : (ofString s).IsValid := isValid_of_mem_pieces

theorem readString_ofString (s : String) : readString (ofString s) = .ok s :=
  Quotation.read_pieces s

theorem isValid_ofBool (b : Bool) : (ofBool b).IsValid := trivial

theorem readBool_ofBool (b : Bool) : readBool (ofBool b) = .ok b := by cases b <;> rfl

end Document

end Telemetry.Json
