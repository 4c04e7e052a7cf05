import Telemetry.Dictionary

/-!
How many requests ended with each status.

Counts are 64-bit words. A status without a count has the count zero and does not appear.
-/
namespace Telemetry

/-- The completed requests per status. -/
structure StatusCounter where
  counts : Dictionary UInt16 UInt64
  deriving DecidableEq, Inhabited

namespace StatusCounter

def empty : StatusCounter := ⟨.empty⟩

def get (c : StatusCounter) (status : UInt16) : UInt64 :=
  (c.counts.get? status).getD 0

def inc (status : UInt16) (c : StatusCounter) : StatusCounter :=
  ⟨c.counts.insert status (c.get status + 1)⟩

def snapshot (c : StatusCounter) : Dictionary UInt16 UInt64 := c.counts

/-- Takes all the counts and starts again. -/
def drain (c : StatusCounter) : Dictionary UInt16 UInt64 × StatusCounter := (c.counts, empty)

theorem get_inc (c : StatusCounter) (status other : UInt16) :
    (c.inc status).get other = if other = status then c.get status + 1 else c.get other := by
  unfold get inc
  rw [Dictionary.get?_insert]
  split <;> rfl

end StatusCounter

end Telemetry
