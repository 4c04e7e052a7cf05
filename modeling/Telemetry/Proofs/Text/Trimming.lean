import Mathlib.Data.List.DropRight
import Telemetry.Text.Blank

/-!
Trimming, said by what it leaves.

A text is trimmed if neither its first nor its last character is white space. Every text is a
trimmed one between two pieces of white space, and there is no second way to see it so: the core is
what trimming leaves (`trim_eq_iff`). A trimmed text is its own core.
-/
namespace Telemetry.Text

/-- Neither the first nor the last character is white space. -/
structure IsTrimmed (s : List Char) : Prop where
  first : ∀ c ∈ s.head?, isBlank c = false
  last : ∀ c ∈ s.getLast?, isBlank c = false

/-- What a text has between the white space at its ends. -/
structure IsCore (text core : List Char) : Prop where
  between : ∃ before after, text = before ++ core ++ after ∧
    (∀ c ∈ before, isBlank c = true) ∧ ∀ c ∈ after, isBlank c = true
  trimmed : IsTrimmed core

theorem trim_eq_rdropWhile (s : List Char) :
    trim s = (s.dropWhile isBlank).rdropWhile isBlank := rfl

theorem eq_false_of_mem_head?_dropWhile {p : Char → Bool} {s : List Char} {c : Char}
    (hc : c ∈ (s.dropWhile p).head?) : p c = false := by
  have hfirst := List.head?_dropWhile_not p s
  rw [hc] at hfirst
  exact hfirst

theorem dropWhile_of_head? {p : Char → Bool} {s : List Char} (hs : ∀ c ∈ s.head?, p c = false) :
    s.dropWhile p = s := by
  cases s with
  | nil => rfl
  | cons c s => exact List.dropWhile_cons_of_neg (Bool.eq_false_iff.1 (hs c rfl))

theorem isCore_trim (s : List Char) : IsCore s (trim s) := by
  rw [trim_eq_rdropWhile]
  have hfront := List.takeWhile_append_dropWhile (p := isBlank) (l := s)
  have hfirst : ∀ c ∈ (s.dropWhile isBlank).head?, isBlank c = false :=
    fun c hc => eq_false_of_mem_head?_dropWhile hc
  generalize s.dropWhile isBlank = rest at hfront hfirst
  refine ⟨⟨s.takeWhile isBlank, rest.rtakeWhile isBlank, ?_, fun c hc => List.mem_takeWhile_imp hc,
    fun c hc => List.mem_rtakeWhile_imp hc⟩, fun c hc => hfirst c ?_, fun c hc => ?_⟩
  · rw [List.append_assoc, List.rdropWhile_append_rtakeWhile, hfront]
  · obtain ⟨after, hafter⟩ := List.rdropWhile_prefix isBlank rest
    rw [← hafter, List.head?_append, Option.mem_def.1 hc]
    rfl
  · rw [List.rdropWhile, List.getLast?_reverse] at hc
    exact eq_false_of_mem_head?_dropWhile hc

/-- The core of a text is what trimming leaves of it. -/
theorem trim_eq_iff {s t : List Char} : trim s = t ↔ IsCore s t := by
  constructor
  · rintro rfl
    exact isCore_trim s
  · rintro ⟨⟨before, after, rfl, hbefore, hafter⟩, hfirst, hlast⟩
    have hreverse : ∀ c ∈ after.reverse, isBlank c = true :=
      fun c hc => hafter c (List.mem_reverse.1 hc)
    rw [trim_eq_rdropWhile, List.append_assoc, List.dropWhile_append_of_pos hbefore]
    cases t with
    | nil => rw [List.nil_append, List.dropWhile_eq_nil_iff.2 hafter, List.rdropWhile_nil]
    | cons c t =>
      rw [dropWhile_of_head? (s := c :: t ++ after) hfirst, List.rdropWhile,
        List.reverse_append, List.dropWhile_append_of_pos hreverse,
        dropWhile_of_head? (by rwa [List.head?_reverse]), List.reverse_reverse]

theorem trim_of_isTrimmed {s : List Char} (hs : IsTrimmed s) : trim s = s :=
  trim_eq_iff.2 ⟨⟨[], [], by simp, by simp, by simp⟩, hs⟩

theorem mem_of_mem_trim {s : List Char} {c : Char} (hc : c ∈ trim s) : c ∈ s := by
  obtain ⟨before, after, hs, -, -⟩ := (isCore_trim s).between
  rw [hs]
  exact List.mem_append_left after (List.mem_append_right before hc)

end Telemetry.Text
