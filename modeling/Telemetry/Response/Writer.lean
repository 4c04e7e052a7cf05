import Telemetry.Http.Message
import Telemetry.Log

/-!
Where a handler writes its response.

A writer is given by what it does to its own state: it holds headers that may be changed at any
time, takes body bytes and takes a status. It may refuse bytes or take fewer than it is given,
and it may write to the log. Nothing else is assumed, so what is shown of all writers holds of
connections, buffers and wrappers alike.
-/
namespace Telemetry

/-- A failure of input or output. -/
structure IoError where
  kind : String
  message : String
  deriving DecidableEq, Repr

/-- What a write reports: how many bytes were taken, or why none were. -/
abbrev Written := Except IoError Nat

/-- A response writer with states in `σ`. -/
structure Writer (σ : Type) where
  headers : σ → Http.Headers
  setHeaders : Http.Headers → σ → σ
  write : Bytes → σ → (Written × σ) × List LogLine
  writeHeader : Http.Status → σ → σ × List LogLine

/-- One operation on a writer. A write may come with a note, which goes to the log together with
the failure if the write fails. -/
inductive WriterOp where
  | edit (change : Http.Headers → Http.Headers)
  | write (bytes : Bytes) (failureNote : Option String)
  | writeHeader (status : Http.Status)

/-- What an operation gives back. -/
inductive OpResult where
  | done
  | wrote (count : Nat)
  | refused (error : IoError)
  deriving DecidableEq, Repr

/-- A state after operations, with their results and the lines they logged. -/
structure Performed (σ : Type) where
  results : List OpResult
  state : σ
  lines : List LogLine

namespace WriterOp

def setHeader (name : Http.HeaderName) (value : Http.HeaderValue) : WriterOp :=
  .edit (Http.Headers.insert name value)

def appendHeader (name : Http.HeaderName) (value : Http.HeaderValue) : WriterOp :=
  .edit (Http.Headers.append name value)

end WriterOp

namespace Writer

variable {σ : Type}

/-- The line about a failed write. -/
def noteFailure (note : Option String) (e : IoError) : List LogLine :=
  match note with
  | some note => [.debug (note ++ ": " ++ e.message)]
  | none => []

def perform (w : Writer σ) (op : WriterOp) (s : σ) : (OpResult × σ) × List LogLine :=
  match op with
  | .edit change => ((.done, w.setHeaders (change (w.headers s)) s), [])
  | .write bytes note =>
    match w.write bytes s with
    | ((.ok count, s), lines) => ((.wrote count, s), lines)
    | ((.error e, s), lines) => ((.refused e, s), lines ++ noteFailure note e)
  | .writeHeader status =>
    let (s, lines) := w.writeHeader status s
    ((.done, s), lines)

def performAll (w : Writer σ) : List WriterOp → σ → Performed σ
  | [], s => ⟨[], s, []⟩
  | op :: rest, s =>
    let ((result, s), lines) := w.perform op s
    let after := w.performAll rest s
    ⟨result :: after.results, after.state, lines ++ after.lines⟩

end Writer

end Telemetry
