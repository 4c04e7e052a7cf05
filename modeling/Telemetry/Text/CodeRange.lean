/-!
Sets of code points written as closed ranges.

The tables of character properties are lists of such ranges. The only question put to a
table is membership, so nothing here claims that the ranges are sorted or disjoint.
-/
namespace Telemetry.Text

/-- A table of code points: each pair is a first and a last member. -/
abbrev CodeRanges := List (Nat × Nat)

namespace CodeRanges

/-- Whether some range of the table holds the code point. -/
def has (table : CodeRanges) (code : Nat) : Bool :=
  table.any fun range => decide (range.1 ≤ code) && decide (code ≤ range.2)

theorem has_iff (table : CodeRanges) (code : Nat) :
    table.has code = true ↔ ∃ range ∈ table, range.1 ≤ code ∧ code ≤ range.2 := by
  simp [has, List.any_eq_true]

end CodeRanges

end Telemetry.Text
