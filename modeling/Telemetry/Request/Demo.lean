import Telemetry.Request.Interceptor

/-!
The handler of the agent itself: a page at `/` that names the span, a page at `/panic` that
panics, and nothing elsewhere.
-/
namespace Telemetry.Demo

def respond (status : Http.Status) (text : String) : List WriterOp :=
  [.setHeader .contentType .plainText, .writeHeader status,
   .write (Text.Utf8.ofString text) (some "Failed to write response")]

/-- The handler; `trace` is the backtrace of its panics. -/
def handler (trace : String) : Handler := fun req span =>
  if req.path = "/" then
    ⟨respond .ok ("ok span=" ++ Span.text span.span ++ "\n"), .returns (), ⟨0⟩⟩
  else if req.path = "/panic" then
    ⟨[], .panics ⟨.owned ("panic requested by span " ++ Span.text span.span), trace⟩, ⟨0⟩⟩
  else ⟨respond .notFound "not found\n", .returns (), ⟨0⟩⟩

end Telemetry.Demo
