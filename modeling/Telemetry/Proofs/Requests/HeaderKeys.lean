import Mathlib
import Telemetry.Proofs.Http.Fields
import Telemetry.Proofs.Text.LetterCase
import Telemetry.Request.Span

/-!
Canonical header keys.

The canonical form of an ASCII text differs from it in letter case only, and its letters are
capitals exactly where a word begins. There is just one text of which both are true
(`canonical_eq_iff`). So texts that differ in letter case have one canonical form, which is its own,
and names that are not the same have different canonical forms.
-/
namespace Telemetry.Span

open Http

/-- Whether a word begins at a place: at the start of a text, and right after each dash. -/
def BeginsWord (s : List Char) (i : Nat) : Prop :=
  i = 0 ∨ s[i - 1]? = some '-'

/-- The letters that begin a word are capitals, and all other letters are small. -/
def Capitalized (s : List Char) : Prop :=
  ∀ i c, s[i]? = some c → c.isAlpha = true → (c.isUpper = true ↔ BeginsWord s i)

section Words

variable {s t : List Char}

theorem beginsWord_iff (h : s.map Char.toLower = t.map Char.toLower) (i : Nat) :
    BeginsWord s i ↔ BeginsWord t i := by
  have hdash : s[i - 1]? = some '-' ↔ t[i - 1]? = some '-' :=
    ⟨fun hs => Text.getElem?_of_not_isAlpha h.symm hs (by decide),
      fun ht => Text.getElem?_of_not_isAlpha h ht (by decide)⟩
  rw [BeginsWord, BeginsWord, hdash]

/-- Capitals at the beginnings of words leave no choice of letter case. -/
theorem Capitalized.eq_of_map_toLower_eq (hs : Capitalized s) (ht : Capitalized t)
    (h : s.map Char.toLower = t.map Char.toLower) : s = t := by
  apply Text.eq_of_map_toLower_eq h
  intro i c d hc hd hdalpha
  obtain ⟨e, he, hlower⟩ := Text.getElem?_of_map_toLower_eq h hd
  have hsame : c = e := Option.some_inj.1 (hc.symm.trans he)
  have hcalpha : c.isAlpha = true := by
    rw [hsame, Text.isAlpha_of_toLower_eq hlower]
    exact hdalpha
  rw [Bool.eq_iff_iff, hs i c hc hcalpha, ht i d hd hdalpha, beginsWord_iff h]

end Words

/-! ### The canonical form -/

theorem canonicalFrom_cons {c : Char} (hc : c.toNat < 128) (upper : Bool) (s : List Char) :
    canonicalFrom upper (c :: s) =
      (if upper then c.toUpper else c.toLower) :: canonicalFrom (c = '-') s := by
  cases upper with
  | false =>
    rw [canonicalFrom, if_neg Bool.false_ne_true, Text.lowerChar, if_pos hc]
    rfl
  | true =>
    rw [canonicalFrom, if_pos rfl, Text.upperChar, if_pos hc]
    rfl

theorem map_toLower_canonicalFrom {s : List Char} (hs : ∀ c ∈ s, c.toNat < 128) (upper : Bool) :
    (canonicalFrom upper s).map Char.toLower = s.map Char.toLower := by
  induction s generalizing upper with
  | nil => rfl
  | cons c s ih =>
    obtain ⟨hc, hs⟩ := List.forall_mem_cons.1 hs
    have hlower : (if upper then c.toUpper else c.toLower).toLower = c.toLower := by
      cases upper with
      | false => exact Char.toLower_toLower_eq_toLower c
      | true => exact Char.toLower_toUpper_eq_toLower c
    rw [canonicalFrom_cons hc, List.map_cons, List.map_cons, hlower, ih hs]

/-- A letter is a capital as the flag says at the start, and as the character before it says at
every other place. -/
theorem isUpper_canonicalFrom {s : List Char} (hs : ∀ c ∈ s, c.toNat < 128) {upper : Bool}
    {i : Nat} {d : Char} (hd : (canonicalFrom upper s)[i]? = some d) (halpha : d.isAlpha = true) :
    d.isUpper = if i = 0 then upper else decide (s[i - 1]? = some '-') := by
  -- the rest of a text is under the flag that the character before it sets, not under its own
  induction s generalizing upper i with
  | nil => simp [canonicalFrom] at hd
  | cons c s ih =>
    obtain ⟨hc, hs⟩ := List.forall_mem_cons.1 hs
    rw [canonicalFrom_cons hc] at hd
    cases i with
    | zero =>
      rw [List.getElem?_cons_zero, Option.some_inj] at hd
      subst hd
      cases upper with
      | false => exact Char.isUpper_toLower_eq_false c
      | true =>
        show c.toUpper.isUpper = true
        rw [Char.isUpper_toUpper_eq_isAlpha, ← Char.isAlpha_toUpper_eq_isAlpha]
        exact halpha
    | succ i =>
      rw [List.getElem?_cons_succ] at hd
      rw [ih hs hd]
      cases i with
      | zero => simp
      | succ i => rfl

theorem capitalized_canonical {name : List Char} (hname : ∀ c ∈ name, c.toNat < 128) :
    Capitalized (canonical name) := by
  intro i c hc halpha
  have hlower : (canonical name).map Char.toLower = name.map Char.toLower :=
    map_toLower_canonicalFrom hname true
  rw [beginsWord_iff hlower, isUpper_canonicalFrom hname hc halpha, BeginsWord]
  by_cases hi : i = 0
  · rw [if_pos hi]
    exact ⟨fun _ => .inl hi, fun _ => rfl⟩
  · rw [if_neg hi, decide_eq_true_eq, or_iff_right hi]

/-- The canonical form is the one text of the same lower case whose letters are capitals exactly
where a word begins. -/
theorem canonical_eq_iff {name key : List Char} (hname : ∀ c ∈ name, c.toNat < 128) :
    canonical name = key ↔ key.map Char.toLower = name.map Char.toLower ∧ Capitalized key := by
  have hlower : (canonical name).map Char.toLower = name.map Char.toLower :=
    map_toLower_canonicalFrom hname true
  have hcapital : Capitalized (canonical name) := capitalized_canonical hname
  constructor
  · intro hkey
    subst hkey
    exact ⟨hlower, hcapital⟩
  · intro hkey
    exact hcapital.eq_of_map_toLower_eq hkey.2 (hlower.trans hkey.1.symm)

theorem map_toLower_canonical_chars (name : HeaderName) :
    (canonical name.chars).map Char.toLower = name.chars := by
  rw [canonical, map_toLower_canonicalFrom fun c hc => toNat_lt_of_isTokenChar (name.token hc),
    name.map_toLower_chars]

theorem canonical_chars_injective {name other : HeaderName}
    (h : canonical name.chars = canonical other.chars) : name = other := by
  refine HeaderName.ext_chars ?_
  rw [← map_toLower_canonical_chars name, h, map_toLower_canonical_chars other]

/-! ### Keys -/

theorem canonicalKey_eq_iff {name key : String} (hname : ∀ c ∈ name.toList, c.toNat < 128) :
    canonicalKey name = key ↔
      key.toList.map Char.toLower = name.toList.map Char.toLower ∧ Capitalized key.toList := by
  rw [← canonical_eq_iff hname, canonicalKey, ← String.toList_inj, String.toList_ofList]

/-- The key of an ASCII name is an ASCII text of the same length and the same lower case. What is no
letter stays in its place, and letters are capitals exactly at the start and right after each dash.
The name has the same key in any letter case, and a key is its own key. -/
theorem canonicalKey_recases {name : String} (hname : ∀ c ∈ name.toList, c.toNat < 128) :
    (canonicalKey name).length = name.length ∧
    (∀ c ∈ (canonicalKey name).toList, c.toNat < 128) ∧
    (∀ (i : Nat) (c : Char), name.toList[i]? = some c → c.isAlpha = false →
      (canonicalKey name).toList[i]? = some c) ∧
    (canonicalKey name).toList.map Char.toLower = name.toList.map Char.toLower ∧
    Capitalized (canonicalKey name).toList ∧
    (∀ other : String, other.toList.map Char.toLower = name.toList.map Char.toLower →
      canonicalKey other = canonicalKey name) ∧
    canonicalKey (canonicalKey name) = canonicalKey name := by
  obtain ⟨hlower, hcapital⟩ := (canonicalKey_eq_iff hname).1 rfl
  have hascii : ∀ c ∈ (canonicalKey name).toList, c.toNat < 128 :=
    Text.ascii_of_map_toLower_eq hlower hname
  refine ⟨?_, hascii, fun i c hc halpha => Text.getElem?_of_not_isAlpha hlower hc halpha, hlower,
    hcapital, fun other hother => ?_, ?_⟩
  · rw [← String.length_toList, ← String.length_toList]
    exact Text.length_of_map_toLower_eq hlower
  · have hother' : ∀ c ∈ other.toList, c.toNat < 128 :=
      Text.ascii_of_map_toLower_eq hother hname
    exact (canonicalKey_eq_iff hother').2 ⟨hlower.trans hother.symm, hcapital⟩
  · exact (canonicalKey_eq_iff hascii).2 ⟨rfl, hcapital⟩

/-- Dashes at both ends and next to each other, and letters after a digit and a low line. -/
theorem canonicalKey_recases_dashes :
    (∀ c ∈ "-x--iD_a7B-".toList, c.toNat < 128) ∧
      (canonicalKey "-x--iD_a7B-").length = "-x--iD_a7B-".length ∧
      canonicalKey "-x--iD_a7B-" = "-X--Id_a7b-" ∧
      Capitalized "-X--Id_a7b-".toList ∧
      canonicalKey "-X--Id_A7b-" = canonicalKey "-x--iD_a7B-" ∧
      canonicalKey "-X--Id_a7b-" = "-X--Id_a7b-" := by
  have hname : ∀ c ∈ "-x--iD_a7B-".toList, c.toNat < 128 := by simp
  have hkey : canonicalKey "-x--iD_a7B-" = "-X--Id_a7b-" := by decide +kernel
  obtain ⟨hlength, -, -, -, hcapital, hother, hagain⟩ := canonicalKey_recases hname
  rw [hkey] at hcapital hagain
  exact ⟨hname, hlength, hkey, hcapital, hother "-X--Id_A7b-" (by decide +kernel), hagain⟩

/-- Beyond ASCII a key may be longer than its name. -/
example : canonicalKey "ßa" = "SSa" := by decide +kernel

end Telemetry.Span
