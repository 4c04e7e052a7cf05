/-!
Spans of time.

A duration is a count of nanoseconds. Counts in coarser units are rounded down.
-/
namespace Telemetry

/-- A span of time. -/
structure Duration where
  nanoseconds : Nat
  deriving DecidableEq, Repr, Inhabited

namespace Duration

def ofSeconds (n : Nat) : Duration := ⟨n * 1000000000⟩

def ofMilliseconds (n : Nat) : Duration := ⟨n * 1000000⟩

def seconds (d : Duration) : Nat := d.nanoseconds / 1000000000

/-- The nanoseconds beyond the whole seconds. -/
def subsecond (d : Duration) : Nat := d.nanoseconds % 1000000000

def milliseconds (d : Duration) : Nat := d.nanoseconds / 1000000

/-- The whole milliseconds as a 64-bit word, the greatest word standing for all beyond it. -/
def saturatedMilliseconds (d : Duration) : UInt64 :=
  UInt64.ofNat (min d.milliseconds (UInt64.size - 1))

def isZero (d : Duration) : Bool := d.nanoseconds = 0

end Duration

end Telemetry
