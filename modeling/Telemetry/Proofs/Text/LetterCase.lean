import Mathlib

/-!
Texts that differ in letter case.

Letters are those of ASCII, and texts differ in letter case only if they have the same lower case.
What is no letter then stands at the same places in both (`getElem?_of_not_isAlpha`), and the texts
are equal if their capitals stand at the same places (`eq_of_map_toLower_eq`).
-/
namespace Telemetry.Text

section Characters

variable {c d : Char}

theorem isUpper_of_not_isAlpha (hc : c.isAlpha = false) : c.isUpper = false :=
  (Bool.or_eq_false_iff.1 hc).1

theorem isAlpha_of_toLower_eq (h : c.toLower = d.toLower) : c.isAlpha = d.isAlpha := by
  rw [← Char.isAlpha_toLower_eq_isAlpha, h, Char.isAlpha_toLower_eq_isAlpha]

theorem toUpper_toLower_of_isUpper (hc : c.isUpper = true) : c.toLower.toUpper = c := by
  rw [Char.toUpper_toLower_eq_toUpper,
    Char.toUpper_eq_of_not_isLower (Char.not_isLower_of_isUpper hc)]

/-- A character is known by its lower case and by whether it is a capital. -/
theorem eq_of_toLower_eq (h : c.toLower = d.toLower) (hupper : c.isUpper = d.isUpper) : c = d := by
  by_cases hc : c.isUpper = true
  · have hd : d.isUpper = true := hupper ▸ hc
    calc
      c = c.toLower.toUpper := (toUpper_toLower_of_isUpper hc).symm
      _ = d.toLower.toUpper := by rw [h]
      _ = d := toUpper_toLower_of_isUpper hd
  · have hd : ¬ d.isUpper = true := hupper ▸ hc
    calc
      c = c.toLower := (Char.toLower_eq_of_not_isUpper hc).symm
      _ = d.toLower := h
      _ = d := Char.toLower_eq_of_not_isUpper hd

theorem eq_of_toLower_eq_of_not_isAlpha (h : c.toLower = d.toLower) (hd : d.isAlpha = false) :
    c = d := by
  have hc : c.isAlpha = false := (isAlpha_of_toLower_eq h).trans hd
  apply eq_of_toLower_eq h
  rw [isUpper_of_not_isAlpha hc, isUpper_of_not_isAlpha hd]

/-- Lower case leads neither into ASCII nor out of it. -/
theorem toNat_toLower_lt_iff : c.toLower.toNat < 128 ↔ c.toNat < 128 := by
  by_cases hc : c.isUpper = true
  · have hcode : c.toNat ≤ 90 := by
      simp only [Char.isUpper, decide_eq_true_eq, UInt32.le_iff_toNat_le] at hc
      exact hc.2
    have hsmall : ∀ n ≤ 90, (Char.ofNat n).toLower.toNat < 128 := by decide +kernel
    have hlower := hsmall c.toNat hcode
    rw [Char.ofNat_toNat] at hlower
    omega
  · rw [Char.toLower_eq_of_not_isUpper hc]

end Characters

section Texts

variable {s t : List Char}

theorem ascii_of_map_toLower_eq (h : s.map Char.toLower = t.map Char.toLower)
    (ht : ∀ c ∈ t, c.toNat < 128) : ∀ c ∈ s, c.toNat < 128 := by
  intro c hc
  have hmem : c.toLower ∈ t.map Char.toLower := h ▸ List.mem_map_of_mem hc
  obtain ⟨d, hd, hlower⟩ := List.mem_map.1 hmem
  rw [← toNat_toLower_lt_iff, ← hlower, toNat_toLower_lt_iff]
  exact ht d hd

theorem length_of_map_toLower_eq (h : s.map Char.toLower = t.map Char.toLower) :
    s.length = t.length := by
  simpa only [List.length_map] using congrArg List.length h

theorem getElem?_of_map_toLower_eq (h : s.map Char.toLower = t.map Char.toLower) {i : Nat}
    {c : Char} (hc : t[i]? = some c) : ∃ d, s[i]? = some d ∧ d.toLower = c.toLower := by
  have hplace : (s.map Char.toLower)[i]? = some c.toLower := by
    rw [h, List.getElem?_map, hc, Option.map_some]
  rw [List.getElem?_map] at hplace
  exact Option.map_eq_some_iff.1 hplace

theorem getElem?_of_not_isAlpha (h : s.map Char.toLower = t.map Char.toLower) {i : Nat} {c : Char}
    (hc : t[i]? = some c) (halpha : c.isAlpha = false) : s[i]? = some c := by
  obtain ⟨d, hd, hlower⟩ := getElem?_of_map_toLower_eq h hc
  rw [hd, eq_of_toLower_eq_of_not_isAlpha hlower halpha]

/-- Texts of one lower case are equal if each letter is a capital in both or in neither. -/
theorem eq_of_map_toLower_eq (h : s.map Char.toLower = t.map Char.toLower)
    (hupper : ∀ (i : Nat) (c d : Char), s[i]? = some c → t[i]? = some d → d.isAlpha = true →
      c.isUpper = d.isUpper) : s = t := by
  refine List.ext_getElem (length_of_map_toLower_eq h) fun i hs ht => ?_
  obtain ⟨c, hc, hlower⟩ := getElem?_of_map_toLower_eq h (List.getElem?_eq_getElem ht)
  rw [(List.getElem_eq_iff hs).2 hc]
  by_cases halpha : t[i].isAlpha = true
  · apply eq_of_toLower_eq hlower
    exact hupper i c t[i] hc (List.getElem?_eq_getElem ht) halpha
  · exact eq_of_toLower_eq_of_not_isAlpha hlower (Bool.eq_false_iff.2 halpha)

end Texts

end Telemetry.Text
