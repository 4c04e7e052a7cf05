import Telemetry.Text.Blank
import Telemetry.Panic.Payload

/-!
Backtraces of panics.

When a panic is caught, its stack is gone. Each thread therefore keeps the backtrace of its last
panic in one slot, together with the panic's message. Whoever reports a panic empties the slot
and uses what was in it if the messages agree.
-/
namespace Telemetry

/-- What remains of the last panic of a thread. -/
structure StashedBacktrace (β : Type) where
  message : String
  backtrace : β
  deriving DecidableEq, Repr

/-- The slot of one thread. -/
abbrev BacktraceSlot (β : Type) := Option (StashedBacktrace β)

namespace BacktraceSlot

variable {β : Type}

def raise (payload : Payload) (backtrace : β) : BacktraceSlot β :=
  some ⟨payload.message, backtrace⟩

/-- The backtrace for a report of `message`, `here` being the one taken on the spot, and the
slot afterwards. -/
def take (slot : BacktraceSlot β) (message : String) (here : β) : β × BacktraceSlot β :=
  match slot with
  | some stash => (if stash.message = message then stash.backtrace else here, none)
  | none => (here, none)

theorem take_snd (slot : BacktraceSlot β) (message : String) (here : β) :
    (slot.take message here).2 = none := by
  cases slot <;> rfl

end BacktraceSlot

/-- Puts a text in the place of each occurrence of a character. -/
def replaceChar (c : Char) (text : List Char) (s : List Char) : List Char :=
  s.flatMap fun d => if d = c then text else [d]

/-- Writes the line ends of a trace out, then its tabs, and then its NULs as spaces. -/
def flattenTrace (trace : List Char) : List Char :=
  replaceChar '\x00' [' ']
    (replaceChar '\t' ['\\', 't'] (replaceChar '\n' ['\\', 'n'] trace))

/-- A trace as one line that neither begins nor ends with white space. -/
def cleanTrace (trace : String) : String :=
  String.ofList (Text.trim (flattenTrace trace.toList))

end Telemetry
