import Mathlib.Data.List.Basic
import Telemetry.Proofs.Text.Utf8

/-!
What any bytes are read as.

Bytes fall into written characters and broken pieces (`Pieces`). A broken piece is a byte that
begins no character, or the beginning of a character that the next byte does not go on with. There
is only one way to see bytes so (`Pieces.unique`), and the reader finds it (`pieces_scan`). So bytes
that are read without a broken piece are the UTF-8 of what is read, and of no other text
(`toString?_eq_some_iff`).
-/
namespace Telemetry.Text.Utf8

/-- The bytes are the beginning of a character, perhaps all of it. -/
def Begins (piece : Bytes) : Prop := ∃ c, piece <+: encodeChar c

/-- The longest piece at the start of the bytes `piece ++ rest` that cannot become a character: a
byte that begins none, or the beginning of one that does not go on in `rest`. -/
inductive Broken : Bytes → Bytes → Prop where
  | stray {b : UInt8} {rest : Bytes} (hb : ¬ Begins [b]) : Broken [b] rest
  | cut {piece rest : Bytes} (hne : piece ≠ []) (hbegins : Begins piece)
    (hwhole : ∀ c, piece ≠ encodeChar c) (hnext : ∀ b ∈ rest.head?, ¬ Begins (piece ++ [b])) :
    Broken piece rest

/-- The pieces of which bytes consist, `none` standing for a broken one. -/
inductive Pieces : Bytes → List (Option Char) → Prop where
  | done : Pieces [] []
  | char {c : Char} {rest : Bytes} {read : List (Option Char)} (h : Pieces rest read) :
    Pieces (encodeChar c ++ rest) (some c :: read)
  | broken {piece rest : Bytes} {read : List (Option Char)} (hpiece : Broken piece rest)
    (h : Pieces rest read) : Pieces (piece ++ rest) (none :: read)

/-! ### Characters from their bits -/

theorem toNat_charOfNat {n : Nat} (hn : n < 0xD800 ∨ 0xDFFF < n ∧ n < 0x110000) :
    (Char.ofNat n).toNat = n := by
  have hvalid : n.isValidChar := hn
  rw [Char.ofNat, dif_pos hvalid]
  rfl

theorem eq_ofNat {b : UInt8} {n : Nat} (h : b.toNat = n) : b = UInt8.ofNat n := by
  rw [← h, UInt8.ofNat_toNat]

theorem encodeChar_two {b d : UInt8} {q x : Nat} (hb : b.toNat = 0xC0 + q) (hd : d.toNat = 0x80 + x)
    (hlow : 2 ≤ q) (hhigh : q < 32) (hx : x < 64) :
    [b, d] = encodeChar (Char.ofNat (q * 64 + x)) := by
  rw [encodeChar, toNat_charOfNat (by omega), if_neg (by omega), if_pos (by omega), eq_ofNat hb,
    eq_ofNat hd, show (q * 64 + x) / 64 = q by omega, show (q * 64 + x) % 64 = x by omega]

theorem encodeChar_three {b d e : UInt8} {q x y : Nat} (hb : b.toNat = 0xE0 + q)
    (hd : d.toNat = 0x80 + x) (he : e.toNat = 0x80 + y) (hq : q < 16) (hx : x < 64) (hy : y < 64)
    (hlow : q = 0 → 0x20 ≤ x) (hhigh : q = 13 → x < 0x20) :
    [b, d, e] = encodeChar (Char.ofNat ((q * 64 + x) * 64 + y)) := by
  generalize hn : (q * 64 + x) * 64 + y = n
  rw [encodeChar, toNat_charOfNat (by omega), if_neg (by omega), if_neg (by omega),
    if_pos (by omega), eq_ofNat hb, eq_ofNat hd, eq_ofNat he, show n / 4096 = q by omega,
    show n / 64 % 64 = x by omega, show n % 64 = y by omega]

theorem encodeChar_four {b d e f : UInt8} {q x y z : Nat} (hb : b.toNat = 0xF0 + q)
    (hd : d.toNat = 0x80 + x) (he : e.toNat = 0x80 + y) (hf : f.toNat = 0x80 + z) (hq : q < 5)
    (hx : x < 64) (hy : y < 64) (hz : z < 64) (hlow : q = 0 → 0x10 ≤ x) (hhigh : q = 4 → x < 0x10) :
    [b, d, e, f] = encodeChar (Char.ofNat (((q * 64 + x) * 64 + y) * 64 + z)) := by
  generalize hn : ((q * 64 + x) * 64 + y) * 64 + z = n
  rw [encodeChar, toNat_charOfNat (by omega), if_neg (by omega), if_neg (by omega),
    if_neg (by omega), eq_ofNat hb, eq_ofNat hd, eq_ofNat he, eq_ofNat hf,
    show n / 262144 = q by omega, show n / 4096 % 64 = x by omega, show n / 64 % 64 = y by omega,
    show n % 64 = z by omega]

/-! ### Inside a character -/

/-- However bytes in the asked ranges go on, the piece becomes a character, and the one whose bits
they are. -/
def Completes : Nat → Bytes → UInt8 → UInt8 → Nat → Prop
  | 0, piece, low, high, bits => low ≤ high ∧ ∀ b, low ≤ b → b ≤ high →
    piece ++ [b] = encodeChar (Char.ofNat (bits * 64 + (b.toNat - 0x80)))
  | more + 1, piece, low, high, bits => low ≤ high ∧ ∀ b, low ≤ b → b ≤ high →
    Completes more (piece ++ [b]) 0x80 0xBF (bits * 64 + (b.toNat - 0x80))

/-- The reader has come into a character with a piece of it. -/
structure Inside (piece : Bytes) (more : Nat) (low high : UInt8) (bits : Nat) : Prop where
  read : ∀ rest, scan .between (piece ++ rest) = scan (.inside more low high bits) rest
  completes : Completes more piece low high bits

theorem Completes.begins {more : Nat} {piece : Bytes} {low high : UInt8} {bits : Nat}
    (h : Completes more piece low high bits) : Begins piece := by
  induction more generalizing piece low high bits with
  | zero => exact ⟨_, [low], h.2 low (UInt8.le_refl low) h.1⟩
  | succ more ih =>
    obtain ⟨c, rest, hc⟩ := ih (h.2 low (UInt8.le_refl low) h.1)
    exact ⟨c, [low] ++ rest, by rw [← hc, List.append_assoc]⟩

theorem scan_of_eq_encodeChar {bytes : Bytes} {c : Char} (h : bytes = encodeChar c) :
    scan .between bytes = [some c] := by
  have hread := scan_encodeChar c []
  rwa [List.append_nil, ← h] at hread

namespace Inside

variable {piece : Bytes} {more : Nat} {low high : UInt8} {bits : Nat}

theorem broken (h : Inside piece more low high bits) {rest : Bytes}
    (hnext : ∀ b ∈ rest.head?, ¬ (low ≤ b ∧ b ≤ high)) : Broken piece rest := by
  refine .cut ?_ h.completes.begins (fun c hc => ?_) fun b hb hbegins => ?_
  · rintro rfl
    cases h.read []
  · have hread := h.read []
    rw [List.append_nil, scan_of_eq_encodeChar hc] at hread
    cases hread
  · obtain ⟨c, more, hc⟩ := hbegins
    have hread := h.read (b :: more)
    rw [← List.singleton_append, ← List.append_assoc, scan_of_eq_encodeChar hc,
      List.singleton_append, scan, if_neg (hnext b hb)] at hread
    cases hread

theorem step (h : Inside piece (more + 1) low high bits) {b : UInt8} (hb : low ≤ b ∧ b ≤ high) :
    Inside (piece ++ [b]) more 0x80 0xBF (bits * 64 + (b.toNat - 0x80)) where
  read rest := by
    rw [List.append_assoc, h.read, List.singleton_append, scan, if_pos hb]
  completes := h.completes.2 b hb.1 hb.2

end Inside

/-- The bytes that open a character, by the bytes that are to come. -/
theorem lead_opens_cases {b low high : UInt8} {more bits : Nat}
    (h : lead b = .opens more low high bits) :
    (more = 0 ∧ b.toNat = 0xC0 + bits ∧ 2 ≤ bits ∧ bits < 32 ∧ low = 0x80 ∧ high = 0xBF) ∨
    (more = 1 ∧ b.toNat = 0xE0 + bits ∧ bits < 16 ∧
      low = (if bits = 0 then 0xA0 else 0x80) ∧ high = (if bits = 13 then 0x9F else 0xBF)) ∨
    (more = 2 ∧ b.toNat = 0xF0 + bits ∧ bits < 5 ∧
      low = (if bits = 0 then 0x90 else 0x80) ∧ high = (if bits = 4 then 0x8F else 0xBF)) := by
  have hbyte := b.toNat_lt
  by_cases hsingle : b.toNat < 0x80
  · rw [lead_single hsingle] at h
    cases h
  by_cases htwo : 0xC2 ≤ b.toNat ∧ b.toNat < 0xE0
  · rw [lead_two (q := b.toNat - 0xC0) (by omega) (by omega) (by omega)] at h
    cases h
    exact Or.inl ⟨rfl, by omega, by omega, by omega, rfl, rfl⟩
  by_cases hthree : 0xE0 ≤ b.toNat ∧ b.toNat < 0xF0
  · rw [lead_three (q := b.toNat - 0xE0) (by omega) (by omega)] at h
    cases h
    exact Or.inr (Or.inl ⟨rfl, by omega, by omega, rfl, rfl⟩)
  by_cases hfour : 0xF0 ≤ b.toNat ∧ b.toNat < 0xF5
  · rw [lead_four (q := b.toNat - 0xF0) (by omega) (by omega)] at h
    cases h
    exact Or.inr (Or.inr ⟨rfl, by omega, by omega, rfl, rfl⟩)
  · have hranges : ¬ b.toNat < 0x80 ∧ (b.toNat < 0xC2 ∨ 0xF5 ≤ b.toNat) := by omega
    unfold lead at h
    simp only [UInt8.lt_iff_toNat_lt, beq_iff_eq, ← UInt8.toNat_inj, UInt8.reduceToNat] at h
    grind

/-- The bits of a byte after the first one, whose range may be narrowed at either end. -/
theorem exists_bits {p q : Prop} [Decidable p] [Decidable q] {narrowLow narrowHigh d : UInt8}
    (hnarrowLow : 0x80 ≤ narrowLow) (hnarrowHigh : narrowHigh ≤ 0xBF)
    (hlow : (if p then narrowLow else 0x80) ≤ d) (hhigh : d ≤ if q then narrowHigh else 0xBF) :
    ∃ x < 64, d.toNat = 0x80 + x ∧ (p → narrowLow.toNat ≤ 0x80 + x) ∧
      (q → 0x80 + x ≤ narrowHigh.toNat) := by
  have hleast : (0x80 : UInt8).toNat = 0x80 := rfl
  have hgreatest : (0xBF : UInt8).toNat = 0xBF := rfl
  simp only [UInt8.le_iff_toNat_le] at hnarrowLow hnarrowHigh hlow hhigh
  refine ⟨d.toNat - 0x80, ?_⟩
  split at hlow <;> split at hhigh <;> simp_all <;> omega

/-- Narrowed at one end only, the range is not empty. -/
theorem narrowed_le {p q : Prop} [Decidable p] [Decidable q] {narrowLow narrowHigh : UInt8}
    (hpq : p → ¬ q) (hlow : narrowLow ≤ 0xBF) (hhigh : 0x80 ≤ narrowHigh) :
    (if p then narrowLow else 0x80) ≤ if q then narrowHigh else 0xBF := by
  by_cases hp : p
  · rwa [if_pos hp, if_neg (hpq hp)]
  · rw [if_neg hp]
    split
    · exact hhigh
    · decide

theorem completes_of_lead {b low high : UInt8} {more bits : Nat}
    (h : lead b = .opens more low high bits) : Completes more [b] low high bits := by
  -- the bytes after the second one are never narrowed
  have hlater : ∀ e : UInt8, 0x80 ≤ e → e ≤ 0xBF → ∃ y < 64, e.toNat = 0x80 + y := by
    intro e hlow hhigh
    have hlow : 0x80 ≤ e.toNat := hlow
    have hhigh : e.toNat ≤ 0xBF := hhigh
    exact ⟨e.toNat - 0x80, by omega, by omega⟩
  rcases lead_opens_cases h with ⟨rfl, hb, htwo, hbits, rfl, rfl⟩ | ⟨rfl, hb, hbits, rfl, rfl⟩ |
    ⟨rfl, hb, hbits, rfl, rfl⟩
  · refine ⟨by decide, fun d hlow hhigh => ?_⟩
    obtain ⟨x, hx, hd⟩ := hlater d hlow hhigh
    rw [hd, Nat.add_sub_cancel_left]
    exact encodeChar_two hb hd htwo hbits hx
  · refine ⟨narrowed_le (by omega) (by decide) (by decide), fun d hlow hhigh =>
      ⟨by decide, fun e helow hehigh => ?_⟩⟩
    obtain ⟨x, hx, hd, hfirst, hlast⟩ := exists_bits (by decide) (by decide) hlow hhigh
    obtain ⟨y, hy, he⟩ := hlater e helow hehigh
    rw [hd, he, Nat.add_sub_cancel_left, Nat.add_sub_cancel_left]
    have hleast : (0xA0 : UInt8).toNat = 0xA0 := rfl
    have hgreatest : (0x9F : UInt8).toNat = 0x9F := rfl
    exact encodeChar_three hb hd he hbits hx hy (by omega) (by omega)
  · refine ⟨narrowed_le (by omega) (by decide) (by decide), fun d hlow hhigh =>
      ⟨by decide, fun e helow hehigh => ⟨by decide, fun f hflow hfhigh => ?_⟩⟩⟩
    obtain ⟨x, hx, hd, hfirst, hlast⟩ := exists_bits (by decide) (by decide) hlow hhigh
    obtain ⟨y, hy, he⟩ := hlater e helow hehigh
    obtain ⟨z, hz, hf⟩ := hlater f hflow hfhigh
    rw [hd, he, hf, Nat.add_sub_cancel_left, Nat.add_sub_cancel_left, Nat.add_sub_cancel_left]
    have hleast : (0x90 : UInt8).toNat = 0x90 := rfl
    have hgreatest : (0x8F : UInt8).toNat = 0x8F := rfl
    exact encodeChar_four hb hd he hf hbits hx hy hz (by omega) (by omega)

theorem inside_of_lead {b low high : UInt8} {more bits : Nat}
    (h : lead b = .opens more low high bits) : Inside [b] more low high bits where
  read rest := scan_opens h rest
  completes := completes_of_lead h

/-! ### All bytes -/

theorem encodeChar_of_lead {b : UInt8} {c : Char} (h : lead b = .single c) :
    encodeChar c = [b] := by
  by_cases hsingle : b.toNat < 0x80
  · rw [lead_single hsingle] at h
    cases h
    have hascii := toNat_asciiChar b hsingle
    rw [asciiChar] at hascii
    rw [encodeChar_of_lt (by omega), hascii, UInt8.ofNat_toNat]
  · unfold lead at h
    simp only [UInt8.lt_iff_toNat_lt, UInt8.reduceToNat, if_neg hsingle] at h
    grind

/-- The reader finds the pieces, wherever it stands. -/
theorem pieces_scan_from (bytes : Bytes) : Pieces bytes (scan .between bytes) ∧
    ∀ {piece more low high bits}, Inside piece more low high bits →
      Pieces (piece ++ bytes) (scan (.inside more low high bits) bytes) := by
  -- both positions at once: a byte that does not go on a character is read again as a first one
  induction bytes with
  | nil =>
    refine ⟨.done, fun h => ?_⟩
    exact .broken (h.broken fun b hb => by cases hb) .done
  | cons b rest ih =>
    have hbetween : Pieces (b :: rest) (scan .between (b :: rest)) := by
      cases hlead : lead b with
      | single c =>
        rw [scan_single hlead, ← List.singleton_append, ← encodeChar_of_lead hlead]
        exact .char ih.1
      | opens more low high bits =>
        rw [scan_opens hlead]
        exact ih.2 (inside_of_lead hlead)
      | illFormed =>
        have hscan : ∀ more, scan .between (b :: more) = none :: scan .between more := by
          intro more
          rw [scan, hlead]
        rw [hscan]
        refine @Pieces.broken [b] rest _ (.stray ?_) ih.1
        -- the reader would find a character that begins with this byte
        rintro ⟨c, more, hc⟩
        cases (hscan more).symm.trans (scan_of_eq_encodeChar hc)
    refine ⟨hbetween, fun {piece more low high bits} h => ?_⟩
    by_cases hb : low ≤ b ∧ b ≤ high
    · cases more with
      | zero =>
        rw [scan, if_pos hb, ← List.singleton_append, ← List.append_assoc,
          h.completes.2 b hb.1 hb.2]
        exact .char ih.1
      | succ more =>
        rw [scan, if_pos hb, ← List.singleton_append, ← List.append_assoc]
        exact ih.2 (h.step hb)
    · have hscan : scan (.inside more low high bits) (b :: rest) =
          none :: scan .between (b :: rest) := by
        conv_lhs => rw [scan, if_neg hb]
        rw [scan]
      rw [hscan]
      exact .broken (h.broken fun d hd => by cases hd; exact hb) hbetween

theorem pieces_scan (bytes : Bytes) : Pieces bytes (scan .between bytes) :=
  (pieces_scan_from bytes).1

/-! ### Only one way -/

theorem encodeChar_ne_nil (c : Char) : encodeChar c ≠ [] := by
  intro h
  cases scan_of_eq_encodeChar h.symm

/-- No character begins with another one. -/
theorem encodeChar_inj_of_front {c d : Char} (h : encodeChar c <+: encodeChar d) : c = d := by
  obtain ⟨rest, hrest⟩ := h
  have hread := scan_of_eq_encodeChar hrest
  rw [scan_encodeChar] at hread
  exact Option.some_inj.1 (List.cons.inj hread).1

theorem Begins.of_front {piece front : Bytes} (h : Begins piece) (hfront : front <+: piece) :
    Begins front := by
  obtain ⟨c, hc⟩ := h
  exact ⟨c, hfront.trans hc⟩

theorem eq_singleton_of_front {b : UInt8} {front : Bytes} (hne : front ≠ [])
    (h : front <+: [b]) : front = [b] := by
  rcases List.prefix_cons_iff.1 h with hnil | ⟨tail, rfl, htail⟩
  · exact absurd hnil hne
  · rw [List.prefix_nil.1 htail]

namespace Broken

variable {piece rest : Bytes}

/-- The beginning of a character at the front of the bytes ends within the piece. -/
theorem front_of_begins (h : Broken piece rest) {front more : Bytes}
    (hbytes : front ++ more = piece ++ rest) (hbegins : Begins front) : front <+: piece := by
  rcases List.prefix_or_prefix_of_prefix (List.prefix_append front more)
    (hbytes ▸ List.prefix_append piece rest) with hwithin | ⟨tail, rfl⟩
  · exact hwithin
  · cases tail with
    | nil => simp
    | cons b tail =>
      have hrest : rest = b :: (tail ++ more) := by simpa using hbytes.symm
      have hnext : Begins (piece ++ [b]) :=
        hbegins.of_front ⟨tail, by rw [List.append_assoc, List.singleton_append]⟩
      cases h with
      | stray hb => exact absurd (hnext.of_front (List.prefix_append _ _)) hb
      | cut _ _ _ hstop => exact absurd hnext (hstop b (by rw [hrest]; rfl))

theorem not_encodeChar_append (h : Broken piece rest) (c : Char) (more : Bytes) :
    encodeChar c ++ more ≠ piece ++ rest := by
  intro hbytes
  have hwithin := h.front_of_begins hbytes ⟨c, List.prefix_rfl⟩
  cases h with
  | stray hb =>
    rw [← eq_singleton_of_front (encodeChar_ne_nil c) hwithin] at hb
    exact hb ⟨c, List.prefix_rfl⟩
  | cut hne hbegins hwhole hnext =>
    obtain ⟨d, hd⟩ := hbegins
    obtain rfl := encodeChar_inj_of_front (hwithin.trans hd)
    exact hwhole c (hd.eq_of_length_le hwithin.length_le)

theorem unique (h : Broken piece rest) {other more : Bytes} (hother : Broken other more)
    (hbytes : piece ++ rest = other ++ more) : piece = other := by
  cases h with
  | stray hb =>
    cases hother with
    | stray => exact congrArg (fun b => [b]) (List.cons.inj hbytes).1
    | cut hne hbegins =>
      have hfront := (Broken.stray hb).front_of_begins hbytes.symm hbegins
      exact (eq_singleton_of_front hne hfront).symm
  | cut hne hbegins hwhole hnext =>
    have hfront := hother.front_of_begins hbytes hbegins
    cases hother with
    | stray => exact eq_singleton_of_front hne hfront
    | cut hne' hbegins' _ _ =>
      have hback := (Broken.cut hne hbegins hwhole hnext).front_of_begins hbytes.symm hbegins'
      exact hfront.eq_of_length_le hback.length_le

theorem ne_nil (h : Broken piece rest) : piece ≠ [] := by
  cases h with
  | stray => exact List.cons_ne_nil _ _
  | cut hne => exact hne

end Broken

theorem encodeChar_append_inj {c d : Char} {rest more : Bytes}
    (h : encodeChar c ++ rest = encodeChar d ++ more) : c = d ∧ rest = more := by
  have hc : c = d := by
    rcases List.prefix_or_prefix_of_prefix (List.prefix_append (encodeChar c) rest)
      (h ▸ List.prefix_append (encodeChar d) more) with hwithin | hwithin
    · exact encodeChar_inj_of_front hwithin
    · exact (encodeChar_inj_of_front hwithin).symm
  subst hc
  exact ⟨rfl, List.append_cancel_left h⟩

theorem Pieces.eq_nil {read : List (Option Char)} (h : Pieces [] read) : read = [] := by
  generalize hbytes : ([] : Bytes) = bytes at h
  cases h with
  | done => rfl
  | char => exact absurd (List.append_eq_nil_iff.1 hbytes.symm).1 (encodeChar_ne_nil _)
  | broken hpiece => exact absurd (List.append_eq_nil_iff.1 hbytes.symm).1 hpiece.ne_nil

/-- There is only one way to see bytes as pieces. -/
theorem Pieces.unique {bytes : Bytes} {read again : List (Option Char)} (h : Pieces bytes read)
    (hagain : Pieces bytes again) : read = again := by
  induction h generalizing again with
  | done => exact hagain.eq_nil.symm
  | @char c rest read h ih =>
    generalize hbytes : encodeChar c ++ rest = bytes at hagain
    cases hagain with
    | done => exact absurd (List.append_eq_nil_iff.1 hbytes).1 (encodeChar_ne_nil c)
    | char hmore =>
      obtain ⟨rfl, rfl⟩ := encodeChar_append_inj hbytes
      rw [ih hmore]
    | broken hpiece => exact absurd hbytes (hpiece.not_encodeChar_append c rest)
  | @broken piece rest read hpiece h ih =>
    generalize hbytes : piece ++ rest = bytes at hagain
    cases hagain with
    | done => exact absurd (List.append_eq_nil_iff.1 hbytes).1 hpiece.ne_nil
    | char => exact absurd hbytes.symm (hpiece.not_encodeChar_append _ _)
    | broken hother hmore =>
      obtain rfl := hpiece.unique hother hbytes
      obtain rfl := List.append_cancel_left hbytes
      rw [ih hmore]

/-- The text of any bytes has U+FFFD for each broken piece. -/
theorem Pieces.toStringLossy_eq {bytes : Bytes} {read : List (Option Char)}
    (h : Pieces bytes read) : toStringLossy bytes = String.ofList (read.map (·.getD '\uFFFD')) := by
  rw [h.unique (pieces_scan bytes)]
  rfl

/-! ### Well-formed bytes -/

theorem Pieces.encode_eq {bytes : Bytes} {s : List Char} (h : Pieces bytes (s.map some)) :
    encode s = bytes := by
  generalize hread : s.map some = read at h
  induction h generalizing s with
  | done =>
    rw [List.map_eq_nil_iff.1 hread]
    rfl
  | @char c rest read h ih =>
    obtain ⟨d, t, rfl, hd, ht⟩ := List.map_eq_cons_iff.1 hread
    cases hd
    rw [← ih ht]
    rfl
  | broken hpiece h ih =>
    obtain ⟨d, t, rfl, hd, ht⟩ := List.map_eq_cons_iff.1 hread
    cases hd

theorem eq_map_some_of_allPresent {read : List (Option Char)} {s : List Char}
    (h : allPresent read = some s) : read = s.map some := by
  induction read generalizing s with
  | nil =>
    cases h
    rfl
  | cons first read ih =>
    cases first with
    | none => cases h
    | some c =>
      obtain ⟨t, ht, rfl⟩ := Option.map_eq_some_iff.1 h
      rw [ih ht, List.map_cons]

/-- Bytes have a text exactly if they are its UTF-8. -/
theorem toString?_eq_some_iff {bytes : Bytes} {s : String} :
    toString? bytes = some s ↔ bytes = ofString s := by
  constructor
  · intro h
    obtain ⟨t, ht, rfl⟩ := Option.map_eq_some_iff.1 h
    have hpieces := pieces_scan bytes
    rw [eq_map_some_of_allPresent ht] at hpieces
    rw [ofString, String.toList_ofList, hpieces.encode_eq]
  · rintro rfl
    exact toString?_ofString s

end Telemetry.Text.Utf8
