import Telemetry.Request.Interceptor
import Telemetry.Response.Buffer

/-!
A handler as a service.

A call reads the whole body and then runs the handler under observation on a worker of its own. A
body that cannot be read is answered 400 and a worker that dies 500, so every call has a response.
-/
namespace Telemetry

/-- A body as it arrives: its pieces, and the failure after them if there is one. -/
structure IncomingBody where
  frames : List Bytes
  failure : Option IoError
  deriving DecidableEq, Repr

/-- A service around a handler. `worker` names the worker of the call that draws the `n`-th
span. -/
structure Service where
  interceptor : Interceptor
  handler : Handler
  worker : Nat → String

/-- What comes of a call. -/
structure Called where
  response : Http.Response
  results : List OpResult
  deriving DecidableEq, Repr

namespace Service

/-- The line about a worker that died. -/
def workerFailed (worker : String) (payload : Payload) : LogLine :=
  let reason :=
    match payload with
    | .literal text | .owned text => " panicked with message " ++ Text.Quoted.quote text
    | .foreign _ => " panicked"
  .error ("Request worker failed: task " ++ worker ++ reason)

/-- Answers a request whose body has been read. -/
def answer (s : Service) (req : Http.Request) (h : Host) : Called × Host :=
  let worker := s.worker h.spansDrawn
  let (done, h) := h.onOwnThread
    (s.interceptor.intercept s.handler BufferedResponse.writer req .empty)
  match done.escaped with
  | none => (⟨done.response.toResponse, done.results⟩, h)
  | some p =>
    (⟨.plain .internalServerError "Internal server error", done.results⟩,
      h.write (workerFailed worker p.payload))

/-- Answers a call: `head` is the request without its body. -/
def call (s : Service) (head : Http.Request) (body : IncomingBody) (h : Host) : Called × Host :=
  match body.failure with
  | some e =>
    let text := "Failed to read request body: " ++ e.message
    (⟨.plain .badRequest text, []⟩, h.write (.error text))
  | none => s.answer { head with body := body.frames.flatten } h

end Service

end Telemetry
