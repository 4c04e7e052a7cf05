import Telemetry.Response.Writer

/-!
Watching a writer.

A tracer hands everything on to the writer it wraps and remembers the last status and the count
of body bytes. A first write without a status counts as 200, whether it succeeds or not.
-/
namespace Telemetry

/-- A writer's state with what has been seen of it. The status is zero before anything has been
written. -/
structure Traced (σ : Type) where
  inner : σ
  status : UInt16
  size : Nat
  deriving DecidableEq, Repr

namespace Traced

variable {σ : Type}

def start (s : σ) : Traced σ := ⟨s, 0, 0⟩

/-- Remembers that bytes are written. -/
def beginWrite (t : Traced σ) : Traced σ :=
  if t.status = 0 then { t with status := 200 } else t

end Traced

def Writer.traced {σ : Type} (w : Writer σ) : Writer (Traced σ) where
  headers t := w.headers t.inner
  setHeaders headers t := { t with inner := w.setHeaders headers t.inner }
  write bytes t :=
    let t := t.beginWrite
    match w.write bytes t.inner with
    | ((.ok count, inner), lines) => ((.ok count, { t with inner, size := t.size + count }), lines)
    | ((.error e, inner), lines) => ((.error e, { t with inner }), lines)
  writeHeader status t :=
    let (inner, lines) := w.writeHeader status t.inner
    ({ t with inner, status := status.code }, lines)

end Telemetry
