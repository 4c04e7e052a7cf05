import Mathlib.Data.List.Basic
import Telemetry.Text.Hexadecimal
import Telemetry.Text.Quoted

/-!
Written forms are printable and can be read back.

A written form consists of plain characters, which are written as themselves, and of backslashes. No
written form of a character begins that of another one, so a text is determined by its written form
(`encode_injective`). Without the quotes this still holds of texts that have none
(`eq_of_unquote_eq`).
-/
namespace Telemetry.Text

/-! ### Hidden characters -/

/-- A table of which no range meets an interval has no member in it. -/
theorem has_of_disjoint {table : CodeRanges} {low high code : Nat}
    (htable : (table.all fun range => range.2 < low || high ≤ range.1) = true)
    (hlow : low ≤ code) (hhigh : code < high) : table.has code = false := by
  rw [Bool.eq_false_iff]
  intro hhas
  obtain ⟨range, hmem, hfirst, hlast⟩ := (CodeRanges.has_iff table code).1 hhas
  have hrange := List.all_eq_true.1 htable range hmem
  simp only [Bool.or_eq_true, decide_eq_true_eq] at hrange
  omega

theorem isHidden_of_ascii {c : Char} (hlow : 0x20 ≤ c.toNat) (hhigh : c.toNat < 0x7F) :
    isHidden c = false := by
  have hfiller : fillerRanges.has c.toNat = false := has_of_disjoint (by decide) hlow hhigh
  have htable : lowHiddenRanges.has c.toNat = false :=
    has_of_disjoint (by decide +kernel) hlow hhigh
  simp only [isHidden, hfiller, htable, Bool.false_eq_true, if_false,
    if_pos (show c.toNat < 0x3000 by omega)]

theorem isHidden_of_range {c : Char} {first last : Nat} (hrange : (first, last) ∈ lowHiddenRanges)
    (hfirst : first ≤ c.toNat) (hlast : c.toNat ≤ last) (hlow : c.toNat < 0x3000) :
    isHidden c = true := by
  have htable := (CodeRanges.has_iff lowHiddenRanges c.toNat).2 ⟨_, hrange, hfirst, hlast⟩
  simp only [isHidden, htable, if_pos hlow, ite_self]

/-- Whether the character is a control. -/
def IsControl (c : Char) : Prop := c.toNat < 0x20 ∨ 0x7F ≤ c.toNat ∧ c.toNat < 0xA0

/-- The characters that end a line: four controls of ASCII, the next-line control and the separators
of lines and paragraphs. -/
def lineEnds : List Char := ['\n', '\x0b', '\x0c', '\r', '\u0085', '\u2028', '\u2029']

theorem isHidden_of_isControl {c : Char} (hc : IsControl c) : isHidden c = true := by
  have hlower : (0, 31) ∈ lowHiddenRanges := by decide
  have hupper : (127, 160) ∈ lowHiddenRanges := by decide
  rcases hc with hlow | ⟨hdelete, hhigh⟩
  · exact isHidden_of_range hlower (by omega) (by omega) (by omega)
  · exact isHidden_of_range hupper hdelete (by omega) (by omega)

theorem isHidden_of_mem_lineEnds : ∀ c ∈ lineEnds, isHidden c = true :=
  List.all_eq_true.1 (by decide +kernel)

namespace Quoted

/-! ### Hexadecimal numbers -/

theorem hex_eq (n : Nat) :
    hex n = if n < 16 then [n.digitChar] else hex (n / 16) ++ [(n % 16).digitChar] :=
  Nat.toDigits_eq_if (by decide)

/-- The number that digits denote. -/
def hexValue (digits : List Char) : Nat :=
  digits.foldl (fun value c => value * 16 + (hexDigit? c).getD 0) 0

theorem hexDigit?_digitChar : ∀ n < 16, hexDigit? n.digitChar = some n := by decide

theorem hexValue_hex (n : Nat) : hexValue (hex n) = n := by
  induction n using Nat.strongRecOn with
  | _ n ih =>
    rw [hex_eq]
    split
    · next hlt => simp [hexValue, hexDigit?_digitChar n hlt]
    · next hge =>
      have hlast := hexDigit?_digitChar (n % 16) (Nat.mod_lt n (by decide))
      have hfirst := ih (n / 16) (by omega)
      rw [hexValue] at hfirst
      rw [hexValue, List.foldl_append, hfirst, List.foldl_cons, List.foldl_nil, hlast,
        Option.getD_some]
      omega

theorem mem_hex {n : Nat} {c : Char} (hc : c ∈ hex n) : ∃ k < 16, c = k.digitChar := by
  induction n using Nat.strongRecOn with
  | _ n ih =>
    rw [hex_eq] at hc
    split at hc
    · next hlt => exact ⟨n, hlt, List.mem_singleton.1 hc⟩
    · next hge =>
      rcases List.mem_append.1 hc with hfirst | hlast
      · exact ih (n / 16) (by omega) hfirst
      · exact ⟨n % 16, Nat.mod_lt n (by decide), List.mem_singleton.1 hlast⟩

/-! ### Characters -/

/-- A character that is written as itself. -/
def IsPlain (c : Char) : Prop := encodeChar c = [c]

/-- The characters that are written with a backslash and a sign of their own. -/
def signs : List (Char × Char) :=
  [('\x00', '0'), ('\t', 't'), ('\r', 'r'), ('\n', 'n'), ('\"', '\"'), ('\\', '\\')]

/-- The three ways in which a character is written. -/
inductive Form (c : Char) : List Char → Prop where
  | plain (hquote : c ≠ '\"') (hbackslash : c ≠ '\\') (hhidden : isHidden c = false) : Form c [c]
  | sign {s : Char} (hs : (c, s) ∈ signs) : Form c ['\\', s]
  | number (hhidden : isHidden c = true) :
    Form c (['\\', 'u', '\x7b'] ++ hex c.toNat ++ ['\x7d'])

theorem form (c : Char) : Form c (encodeChar c) := by
  unfold encodeChar
  split
  · next h => exact .sign (by rw [h]; decide)
  split
  · next h => exact .sign (by rw [h]; decide)
  split
  · next h => exact .sign (by rw [h]; decide)
  split
  · next h => exact .sign (by rw [h]; decide)
  split
  · next h => exact .sign (by rw [h]; decide)
  split
  · next h => exact .sign (by rw [h]; decide)
  split
  · next hhidden => exact .number hhidden
  · next hquote hbackslash hhidden => exact .plain hquote hbackslash (Bool.eq_false_iff.2 hhidden)

theorem isPlain_iff {c : Char} :
    IsPlain c ↔ c ≠ '\"' ∧ c ≠ '\\' ∧ isHidden c = false := by
  constructor
  · intro hplain
    have hform := form c
    rw [hplain] at hform
    cases hform with
    | plain hquote hbackslash hhidden => exact ⟨hquote, hbackslash, hhidden⟩
  · rintro ⟨hquote, hbackslash, hhidden⟩
    have hne : ∀ d : Char, isHidden d = true → c ≠ d := by
      rintro d hd rfl
      cases hd.symm.trans hhidden
    rw [IsPlain, encodeChar, if_neg (hne '\x00' (by decide)), if_neg (hne '\t' (by decide)),
      if_neg (hne '\r' (by decide)), if_neg (hne '\n' (by decide)), if_neg hquote,
      if_neg hbackslash, hhidden]
    rfl

theorem isPlain_of_ascii {c : Char} (hlow : 0x20 ≤ c.toNat) (hhigh : c.toNat < 0x7F)
    (hquote : c ≠ '\"') (hbackslash : c ≠ '\\') : IsPlain c :=
  isPlain_iff.2 ⟨hquote, hbackslash, isHidden_of_ascii hlow hhigh⟩

theorem isPlain_digitChar : ∀ n < 16, IsPlain n.digitChar := by
  intro n hn
  have hrange : ∀ n < 16, 0x20 ≤ n.digitChar.toNat ∧ n.digitChar.toNat < 0x7F ∧
      n.digitChar ≠ '\"' ∧ n.digitChar ≠ '\\' := by decide
  obtain ⟨hlow, hhigh, hquote, hbackslash⟩ := hrange n hn
  exact isPlain_of_ascii hlow hhigh hquote hbackslash

/-- All that is written is plain, a backslash, or a quote on behalf of a quote. -/
theorem mem_encodeChar {c d : Char} (hd : d ∈ encodeChar c) :
    IsPlain d ∨ d = '\\' ∨ c = '\"' ∧ d = '\"' := by
  have hform := form c
  generalize encodeChar c = written at hd hform
  cases hform with
  | plain hquote hbackslash hhidden =>
    rw [List.mem_singleton.1 hd]
    exact Or.inl (isPlain_iff.2 ⟨hquote, hbackslash, hhidden⟩)
  | @sign s hs =>
    have hsigns : ∀ e ∈ signs, (0x20 ≤ e.2.toNat ∧ e.2.toNat < 0x7F) ∧
        (e.2 = '\"' → e.1 = '\"') := by decide
    obtain ⟨⟨hlow, hhigh⟩, hquoted⟩ := hsigns _ hs
    rcases List.mem_cons.1 hd with rfl | hd
    · exact Or.inr (Or.inl rfl)
    · rw [List.mem_singleton.1 hd]
      by_cases hquote : s = '\"'
      · exact Or.inr (Or.inr ⟨hquoted hquote, hquote⟩)
      by_cases hbackslash : s = '\\'
      · exact Or.inr (Or.inl hbackslash)
      · exact Or.inl (isPlain_of_ascii hlow hhigh hquote hbackslash)
  | number hhidden =>
    simp only [List.mem_append, List.mem_cons, List.not_mem_nil, or_false] at hd
    rcases hd with ((rfl | rfl | rfl) | hd) | rfl
    · exact Or.inr (Or.inl rfl)
    · exact Or.inl (isPlain_of_ascii (by decide) (by decide) (by decide) (by decide))
    · exact Or.inl (isPlain_of_ascii (by decide) (by decide) (by decide) (by decide))
    · obtain ⟨n, hn, rfl⟩ := mem_hex hd
      exact Or.inl (isPlain_digitChar n hn)
    · exact Or.inl (isPlain_of_ascii (by decide) (by decide) (by decide) (by decide))

/-- A number ends with its brace, so what goes on behind it does not matter. -/
theorem hex_brace_inj {n m : Nat} {s t : List Char}
    (h : hex n ++ '\x7d' :: s = hex m ++ '\x7d' :: t) : n = m ∧ s = t := by
  have hdigits : ∀ n (rest : List Char),
      (hex n ++ '\x7d' :: rest).takeWhile (· ≠ '\x7d') = hex n := by
    intro n rest
    have hbrace : ∀ n < 16, n.digitChar ≠ '\x7d' := by decide
    rw [List.takeWhile_append_of_pos, List.takeWhile_cons_of_neg (by decide), List.append_nil]
    intro c hc
    obtain ⟨k, hk, rfl⟩ := mem_hex hc
    exact decide_eq_true (hbrace k hk)
  have hhex := congrArg (List.takeWhile (· ≠ '\x7d')) h
  rw [hdigits, hdigits] at hhex
  have hnumber := congrArg hexValue hhex
  rw [hexValue_hex, hexValue_hex] at hnumber
  subst hnumber
  exact ⟨rfl, (List.cons.inj (List.append_cancel_left h)).2⟩

/-- The written form of a character shows where it ends and which character it is. -/
theorem encodeChar_append_inj {c d : Char} {s t : List Char}
    (h : encodeChar c ++ s = encodeChar d ++ t) : c = d ∧ s = t := by
  have hsigns : ∀ e ∈ signs, e.2 ≠ 'u' ∧ ∀ f ∈ signs, e.2 = f.2 → e.1 = f.1 := by decide
  have hc := form c
  have hd := form d
  generalize encodeChar c = first at h hc
  generalize encodeChar d = second at h hd
  cases hc with
  | plain hquote hbackslash hhidden =>
    cases hd with
    | plain => exact List.cons.inj h
    | sign | number => exact absurd (List.cons.inj h).1 hbackslash
  | sign hs =>
    cases hd with
    | plain hquote hbackslash hhidden => exact absurd (List.cons.inj h).1.symm hbackslash
    | sign hother =>
      obtain ⟨hsign, hrest⟩ := List.cons.inj (List.cons.inj h).2
      exact ⟨(hsigns _ hs).2 _ hother hsign, hrest⟩
    | number =>
      obtain ⟨hsign, -⟩ := List.cons.inj (List.cons.inj h).2
      exact absurd hsign (hsigns _ hs).1
  | number =>
    cases hd with
    | plain hquote hbackslash hhidden => exact absurd (List.cons.inj h).1.symm hbackslash
    | sign hs =>
      obtain ⟨hsign, -⟩ := List.cons.inj (List.cons.inj h).2
      exact absurd hsign.symm (hsigns _ hs).1
    | number =>
      simp only [List.append_assoc, List.cons_append, List.nil_append, List.cons.injEq, true_and]
        at h
      obtain ⟨hnumber, hrest⟩ := hex_brace_inj h
      exact ⟨Char.toNat_inj.1 hnumber, hrest⟩

/-! ### Texts -/

theorem encodeChar_ne_nil (c : Char) : encodeChar c ≠ [] := by
  have hform := form c
  intro hnil
  rw [hnil] at hform
  cases hform

theorem encode_injective : Function.Injective encode := by
  intro s
  induction s with
  | nil =>
    intro t h
    cases t with
    | nil => rfl
    | cons d t => exact absurd (List.append_eq_nil_iff.1 h.symm).1 (encodeChar_ne_nil d)
  | cons c s ih =>
    intro t h
    cases t with
    | nil => exact absurd (List.append_eq_nil_iff.1 h).1 (encodeChar_ne_nil c)
    | cons d t =>
      obtain ⟨rfl, hrest⟩ := encodeChar_append_inj h
      rw [ih hrest]

theorem encode_of_plain {s : List Char} (hs : ∀ c ∈ s, IsPlain c) : encode s = s := by
  rw [encode, List.flatMap_congr hs, List.flatMap_singleton']

theorem mem_unquote {s : List Char} {c : Char} (hc : c ∈ unquote s) :
    c ≠ '\"' ∧ (IsPlain c ∨ c = '\\') := by
  obtain ⟨hmem, hquote⟩ := List.mem_filter.1 hc
  have hne := of_decide_eq_true hquote
  obtain ⟨d, -, hd⟩ := List.mem_flatMap.1 hmem
  rcases mem_encodeChar hd with hplain | hbackslash | ⟨-, hquoted⟩
  · exact ⟨hne, Or.inl hplain⟩
  · exact ⟨hne, Or.inr hbackslash⟩
  · exact absurd hquoted hne

/-- A text without quotes is written without quotes. -/
theorem unquote_eq_encode {s : List Char} (hs : '\"' ∉ s) : unquote s = encode s := by
  refine List.filter_eq_self.2 fun c hc => decide_eq_true ?_
  rintro rfl
  obtain ⟨d, hd, hmem⟩ := List.mem_flatMap.1 hc
  rcases mem_encodeChar hmem with hplain | hbackslash | ⟨hquote, -⟩
  · exact (isPlain_iff.1 hplain).1 rfl
  · cases hbackslash
  · exact hs (hquote ▸ hd)

theorem unquote_of_plain {s : List Char} (hs : ∀ c ∈ s, IsPlain c) : unquote s = s := by
  rw [unquote_eq_encode fun hquote => (isPlain_iff.1 (hs _ hquote)).1 rfl, encode_of_plain hs]

theorem eq_of_unquote_eq {s t : List Char} (hs : '\"' ∉ s) (ht : '\"' ∉ t)
    (h : unquote s = unquote t) : s = t := by
  rw [unquote_eq_encode hs, unquote_eq_encode ht] at h
  exact encode_injective h

/-- A quote and an n leave the same trace as a line feed. -/
example : unquote ['\"', 'n'] = unquote ['\n'] := by decide +kernel

end Quoted

end Telemetry.Text
