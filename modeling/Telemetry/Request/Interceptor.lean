import Telemetry.Client.Panics
import Telemetry.Request.Span
import Telemetry.Response.Tracer

/-!
Requests under observation.

The interceptor runs a handler, counts its status, records the request if it was slow or
panicked, and turns a panic into a report and a fallback response. Counting and recording come
before the fallback, so they happen even if the fallback panics as well.
-/
namespace Telemetry

/-- What a handler does with a request: operations on the response, then an end. It takes
`elapsed` in all. -/
structure Handling where
  ops : List WriterOp
  ending : Ending Unit
  elapsed : Duration

/-- A request handler. It sees the request and its span. -/
abbrev Handler := Http.Request → SpanContext → Handling

/-- What answers a request whose handler panicked. It sees the request and the panic message. -/
abbrev PanicResponder := Http.Request → String → Handling

namespace PanicResponder

/-- Answers 500 with the panic message as plain text. -/
def standard : PanicResponder := fun _ message =>
  { ops :=
      [.setHeader .contentType .plainText, .writeHeader .internalServerError,
       .write (Text.Utf8.ofString message) (some "Failed to write panic response")]
    ending := .returns ()
    elapsed := ⟨0⟩ }

end PanicResponder

/-- What observes requests. Clones share the statistics of the process. -/
structure Interceptor where
  client : Client
  thresholdMs : UInt64
  responder : PanicResponder
  spans : SpanSource

/-- What comes of a request: the results of the handler's operations, the response, and the panic
of the responder if there was one. -/
structure Intercepted (σ : Type) where
  results : List OpResult
  response : σ
  escaped : Option Panic

namespace Interceptor

/-- How a log names a request. -/
def requestLine (req : Http.Request) : String :=
  req.method ++ " " ++ req.path

def outcome (req : Http.Request) (span : SpanContext) (status : UInt16) (elapsed : Duration)
    (isProblem : Bool) : RequestOutcome where
  path := req.path
  method := req.method
  status := status
  elapsed := elapsed.saturatedMilliseconds
  span := span.span
  parentSpan := span.parent
  isProblem := isProblem
  headers := Span.snapshot req.headers

def isNotable (i : Interceptor) (elapsed : Duration) (isProblem : Bool) : Bool :=
  isProblem || decide (i.thresholdMs < elapsed.saturatedMilliseconds)

def count (status : UInt16) (h : Host) : Host :=
  { h with statusCodes := h.statusCodes.inc status }

def record (o : RequestOutcome) (notable : Bool) (req : Http.Request)
    (h : Host) : Host :=
  if notable then
    let line := "Recording " ++ requestLine req ++ " (" ++ String.ofList
      (Text.decimal o.status.toNat) ++ ") after " ++
      String.ofList (Text.decimal o.elapsed.toNat) ++ " ms"
    let h := h.write (.debug line)
    { h with outcomes := h.outcomes.add o }
  else h

/-- What a finished request does to the statistics, in two parts between which others may come: it
is counted, and then it is recorded if it is worth it. -/
def account (i : Interceptor) (req : Http.Request) (span : SpanContext) (status : UInt16)
    (elapsed : Duration) (isProblem : Bool) : (Host → Host) × (Host → Host) :=
  (count status,
    record (outcome req span status elapsed isProblem) (i.isNotable elapsed isProblem) req)

/-- Does one part of the account of a finished request after the other. -/
def afterRequest (i : Interceptor) (req : Http.Request) (span : SpanContext) (status : UInt16)
    (elapsed : Duration) (isProblem : Bool) (h : Host) : Host :=
  let (first, second) := i.account req span status elapsed isProblem
  second (first h)

def serve (w : Writer σ) (handling : Handling) (s : σ) (h : Host) : Performed σ × Host :=
  let done := w.performAll handling.ops s
  let h := h.writeAll done.lines
  match handling.ending with
  | .returns () => (done, h)
  | .panics p => (done, h.raise p.payload p.backtrace)

/-- Reports the panic of a handler and records its request. -/
def recover (i : Interceptor) (req : Http.Request) (span : SpanContext) (elapsed : Duration)
    (p : Panic) (h : Host) : Host :=
  let line := "Recovered panic in handler for " ++ requestLine req ++ ": " ++ p.payload.message
  let h := h.write (.warn line)
  let h := i.client.report p.payload span.span h
  i.afterRequest req span Http.Status.internalServerError.code elapsed true h

/-- Runs a handler for a request and writes its response. -/
def intercept (i : Interceptor) (handler : Handler) (w : Writer σ) (req : Http.Request) (s : σ)
    (h : Host) : Intercepted σ × Host :=
  let span := i.spans.draw h.spansDrawn req.headers
  let h := { h with spansDrawn := h.spansDrawn + 1 }
  let handling := handler req span
  let (done, h) := serve w.traced handling (.start s) h
  match handling.ending with
  | .returns () =>
    let h := i.afterRequest req span done.state.status handling.elapsed false h
    (⟨done.results, done.state.inner, none⟩, h)
  | .panics p =>
    let h := i.recover req span handling.elapsed p h
    let fallback := i.responder req p.payload.message
    let (answer, h) := serve w fallback done.state.inner h
    match fallback.ending with
    | .returns () => (⟨done.results, answer.state, none⟩, h)
    | .panics q => (⟨done.results, answer.state, some q⟩, h)

end Interceptor

end Telemetry
