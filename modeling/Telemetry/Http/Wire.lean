import Telemetry.Http.Body

/-!
Bytes on their way.

The bytes that a client sends arrive in strides, and each stride is twice as long as the one
before. A head is read from what has arrived. One that is not yet complete is read again only
when an empty line has arrived, so a fault in the middle of a long head may go unseen; and a head
may not grow beyond a bound.
-/
namespace Telemetry.Http

/-- Bytes that have arrived, bytes that have not, and how many arrive next. -/
structure Wire where
  arrived : Bytes
  coming : Bytes
  stride : Nat
  stride_pos : 0 < stride
  deriving DecidableEq, Repr

namespace Wire

/-- The size of a buffer that takes no more bytes while a head is incomplete. -/
def fullBuffer : Nat := 417792

/-- The bytes of a client, none of which has arrived. -/
def ofBytes (bytes : Bytes) : Wire := ⟨[], bytes, 8192, by decide⟩

/-- All bytes, arrived or not. -/
def bytes (w : Wire) : Bytes := w.arrived ++ w.coming

/-- The wire after the next stride. A stride that brought all it could makes the next one
longer. -/
def pull (w : Wire) : Wire where
  arrived := w.arrived ++ w.coming.take w.stride
  coming := w.coming.drop w.stride
  stride := if w.stride ≤ w.coming.length then min (w.stride * 2) fullBuffer else w.stride
  stride_pos := by
    have := w.stride_pos
    have : 0 < fullBuffer := by decide
    split <;> omega

theorem length_coming_pull (w : Wire) (h : w.coming ≠ []) :
    w.pull.coming.length < w.coming.length := by
  have := w.stride_pos
  have := List.length_pos_iff.2 h
  simp only [pull, List.length_drop]
  omega

def skip (n : Nat) (w : Wire) : Wire :=
  if h : n ≤ w.arrived.length ∨ w.coming = [] then { w with arrived := w.arrived.drop n }
  else
    have := length_coming_pull { w with arrived := [] } fun none => h (.inr none)
    skip (n - w.arrived.length) { w with arrived := [] }.pull
termination_by w.coming.length

def holdsEmptyLine : Bytes → Bool
  | 0x0D :: 0x0A :: 0x0D :: 0x0A :: _ => true
  | 0x0A :: 0x0A :: _ => true
  | _ :: rest => holdsEmptyLine rest
  | [] => false

/-- How far back an empty line may begin that ends with a new byte. -/
def emptyLineReach : Nat := 3

/-- What comes of waiting for a head: its lines and the wire after them, a fault with the bytes
that have arrived, or those bytes if no more come. -/
inductive Arrival where
  | lines (lines : HeadLines) (wire : Wire)
  | refused (reason : Refusal) (arrived : Bytes)
  | ended (arrived : Bytes)
  deriving DecidableEq, Repr

/-- Reads what has arrived, unless a head of `tried` bytes was incomplete and no empty line has
arrived since. -/
def look (tried : Nat) (w : Wire) : Reading HeadLines :=
  if tried = 0 ∨ holdsEmptyLine (w.arrived.drop (tried - emptyLineReach)) then
    HeadLines.read w.arrived
  else .more

def awaitHead (tried : Nat) (w : Wire) : Arrival :=
  match w.look tried with
  | .done lines rest => .lines lines { w with arrived := rest }
  | .refused reason => .refused reason w.arrived
  | .more =>
    if fullBuffer ≤ w.arrived.length then .refused .tooLarge w.arrived
    else if h : w.coming = [] then .ended w.arrived
    else
      have := length_coming_pull w h
      awaitHead w.arrived.length w.pull
termination_by w.coming.length

/-- Reads a body: its pieces and the wire after it, `none` if it is broken. -/
def readBody (framing : Framing) (w : Wire) : Option (List Bytes × Wire) :=
  (framing.read w.bytes).map fun contents =>
    (contents.pieces, w.skip (w.bytes.length - contents.rest.length))

end Wire

end Telemetry.Http
