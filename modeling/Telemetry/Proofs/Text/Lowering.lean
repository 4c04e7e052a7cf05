import Mathlib
import Telemetry.Proofs.Text.LetterCase
import Telemetry.Text.LetterCase

/-!
Texts that have an ASCII lower case.

Of the characters beyond ASCII, only the Kelvin sign has a lower case in ASCII, and that is the
letter k. So the texts whose lower case is a given ASCII text without a k are its spellings in any
letter case (`lowered_eq_iff`).
-/
namespace Telemetry.Text

/-- The code point of the Kelvin sign. -/
def kelvin : Nat := 8490

/-- A run takes all its letters to characters beyond ASCII. -/
def RunsBeyond (first last : Nat) (shift : Int) : Prop :=
  128 ≤ first + shift ∧
    (last + shift < 0xD800 ∨ 0xDFFF < first + shift ∧ last + shift < 0x110000)

instance (first last : Nat) (shift : Int) : Decidable (RunsBeyond first last shift) :=
  inferInstanceAs (Decidable (_ ∧ _))

theorem runsBeyond_of_mem_lowerRuns : ∀ run ∈ lowerRuns, run.2.1 < 128 ∨
    run.1 = kelvin ∧ run.2.1 = kelvin ∨ RunsBeyond run.1 run.2.1 run.2.2.2 := by
  decide +kernel

theorem exists_beyond_of_mem_lowerSpecials :
    ∀ e ∈ lowerSpecials, ∃ code ∈ e.2, 128 ≤ (Char.ofNat code).toNat := by
  decide +kernel

theorem RunsBeyond.le_toNat {first last code : Nat} {shift : Int} (h : RunsBeyond first last shift)
    (hfirst : first ≤ code) (hlast : code ≤ last) :
    128 ≤ (Char.ofNat (Int.ofNat code + shift).toNat).toNat := by
  obtain ⟨hlow, hvalid⟩ := h
  have hvalid : (Int.ofNat code + shift).toNat.isValidChar := by
    simp only [Nat.isValidChar, Int.ofNat_eq_natCast]
    omega
  rw [Char.toNat_ofNat, if_pos hvalid]
  simp only [Int.ofNat_eq_natCast]
  omega

theorem exists_beyond_of_lowerChar {c : Char} (hc : 128 ≤ c.toNat) (hkelvin : c.toNat ≠ kelvin) :
    ∃ d ∈ lowerChar c, 128 ≤ d.toNat := by
  rw [lowerChar, if_neg (Nat.not_lt.2 hc), mapCase]
  split
  · next codes hcodes =>
    obtain ⟨before, after, htable, -⟩ := List.lookup_eq_some_iff.1 hcodes
    obtain ⟨code, hcode, hbeyond⟩ := exists_beyond_of_mem_lowerSpecials (c.toNat, codes)
      (htable ▸ List.mem_append_right before List.mem_cons_self)
    exact ⟨Char.ofNat code, List.mem_map_of_mem hcode, hbeyond⟩
  · split
    · next code hcode =>
      obtain ⟨⟨first, last, step, shift⟩, hrun, hfound⟩ :=
        List.exists_of_findSome?_eq_some hcode
      simp only [Option.ite_none_right_eq_some, Option.some_inj] at hfound
      obtain ⟨⟨hfirst, hlast, -⟩, rfl⟩ := hfound
      refine ⟨_, List.mem_singleton_self _, ?_⟩
      rcases runsBeyond_of_mem_lowerRuns _ hrun with hascii | ⟨hstart, hstop⟩ | hbeyond
      · exact absurd (Nat.le_trans hc hlast) (Nat.not_le.2 hascii)
      · exact absurd (Nat.le_antisymm (hstop ▸ hlast) (hstart ▸ hfirst)) hkelvin
      · exact hbeyond.le_toNat hfirst hlast
    · exact ⟨c, List.mem_singleton_self c, hc⟩

/-- A character beyond ASCII leaves a trace in the lower case of a text. -/
theorem exists_trace_of_lowerFrom (before rest : List Char) {c : Char} (hc : 128 ≤ c.toNat) :
    ∃ d ∈ lowerFrom before (c :: rest), 128 ≤ d.toNat ∨ d = 'k' := by
  suffices h : ∃ d ∈ (if c = 'Σ' then if casedAhead before && !casedAhead rest then ['ς'] else ['σ']
      else lowerChar c), 128 ≤ d.toNat ∨ d = 'k' by
    obtain ⟨d, hd, htrace⟩ := h
    exact ⟨d, List.mem_append_left _ hd, htrace⟩
  -- which small sigma stands for a capital one depends on the text around it
  split
  · split
    · exact ⟨'ς', by decide, by decide⟩
    · exact ⟨'σ', by decide, by decide⟩
  · by_cases hkelvin : c.toNat = kelvin
    · have hsign : c = Char.ofNat kelvin := by rw [← hkelvin, Char.ofNat_toNat]
      rw [hsign]
      exact ⟨'k', by decide +kernel, .inr rfl⟩
    · obtain ⟨d, hd, hbeyond⟩ := exists_beyond_of_lowerChar hc hkelvin
      exact ⟨d, hd, .inl hbeyond⟩

theorem lowerFrom_cons_of_ascii (before rest : List Char) {c : Char} (hc : c.toNat < 128) :
    lowerFrom before (c :: rest) = c.toLower :: lowerFrom (c :: before) rest := by
  have hsigma : c ≠ 'Σ' := by
    rintro rfl
    exact absurd hc (by decide)
  rw [lowerFrom, if_neg hsigma, lowerChar, if_pos hc]
  rfl

theorem lowerFrom_eq_iff {s t : List Char} (ht : ∀ d ∈ t, d.toNat < 128 ∧ d ≠ 'k')
    (before : List Char) : lowerFrom before s = t ↔ s.map Char.toLower = t := by
  induction s generalizing before t with
  | nil => rfl
  | cons c s ih =>
    by_cases hc : c.toNat < 128
    · rw [lowerFrom_cons_of_ascii before s hc, List.map_cons]
      cases t with
      | nil => simp
      | cons d t =>
        rw [List.cons.injEq, List.cons.injEq, ih fun d hd => ht d (List.mem_cons_of_mem _ hd)]
    · constructor
      · rintro rfl
        obtain ⟨d, hd, htrace⟩ := exists_trace_of_lowerFrom before s (Nat.not_lt.1 hc)
        obtain ⟨hascii, hk⟩ := ht d hd
        exact htrace.elim (fun hbeyond => absurd hascii (Nat.not_lt.2 hbeyond)) (absurd · hk)
      · rintro rfl
        obtain ⟨hlower, -⟩ := ht c.toLower List.mem_cons_self
        exact absurd (toNat_toLower_lt_iff.1 hlower) hc

/-- The texts whose lower case is a given ASCII text without a k. -/
theorem lowered_eq_iff {text t : String} (ht : ∀ d ∈ t.toList, d.toNat < 128 ∧ d ≠ 'k') :
    lowered text = t ↔ text.toList.map Char.toLower = t.toList := by
  rw [← lowerFrom_eq_iff ht [], lowered, ← String.toList_inj, String.toList_ofList]

end Telemetry.Text
