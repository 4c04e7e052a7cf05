import Telemetry.Text.Quoted

/-!
What a panic carries.

A payload is a text or a value of another type. Every value of another type has the same
message, so messages do not tell such payloads apart.
-/
namespace Telemetry

/-- The value that a panic carries: a fixed text, a text made for the occasion, or something
else. -/
inductive Payload where
  | literal (text : String)
  | owned (text : String)
  | foreign (value : Int)
  deriving DecidableEq, Repr

namespace Payload

def message : Payload → String
  | .literal text => text
  | .owned text => text
  | .foreign _ => "Box<dyn Any>"

/-- The message on one printable line, without quotes. -/
def reportMessage (p : Payload) : String :=
  String.ofList (Text.Quoted.unquote p.message.toList)

end Payload

end Telemetry
