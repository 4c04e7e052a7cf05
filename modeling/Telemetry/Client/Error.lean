import Telemetry.Config.Environment
import Telemetry.Text.Quoted

/-!
What can go wrong between the client, its transport and its profiler.

Each error has a wording for people and a form that shows the cause by name with its texts in
quotes. An error that wraps another one has the wording of the inner error.
-/
namespace Telemetry

def ConfigError.inspect : ConfigError → String
  | .invalid reason => "Invalid(" ++ Text.Quoted.quote reason ++ ")"
  | .missingToken => "MissingToken"

/-- Why a POST had no answer. -/
inductive TransportError where
  | build (reason : String)
  | send (url reason : String)
  | body (reason : String)
  deriving DecidableEq, Repr

namespace TransportError

def message : TransportError → String
  | .build reason => "Failed to build HTTP client: " ++ reason
  | .send url reason => "Failed to send request to " ++ url ++ ": " ++ reason
  | .body reason => "Failed to read response body: " ++ reason

def inspect : TransportError → String
  | .build reason => "Build(" ++ Text.Quoted.quote reason ++ ")"
  | .send url reason =>
    "Send \x7b url: " ++ Text.Quoted.quote url ++ ", message: " ++ Text.Quoted.quote reason ++
      " \x7d"
  | .body reason => "Body(" ++ Text.Quoted.quote reason ++ ")"

end TransportError

/-- Why a client could not be made. -/
inductive ClientError where
  | noRuntime
  | config (cause : ConfigError)
  | transport (cause : TransportError)
  deriving DecidableEq, Repr

namespace ClientError

def message : ClientError → String
  | .noRuntime => "No tokio runtime available to run background reports"
  | .config cause => cause.message
  | .transport cause => cause.message

def inspect : ClientError → String
  | .noRuntime => "NoRuntime"
  | .config cause => "Config(" ++ cause.inspect ++ ")"
  | .transport cause => "Transport(" ++ cause.inspect ++ ")"

end ClientError

/-- Why there is no capture. `kind` is the wire text of what was to be captured. -/
inductive CaptureError where
  | unsupported (kind : String)
  | failed (kind reason : String)
  deriving DecidableEq, Repr

namespace CaptureError

def message : CaptureError → String
  | .unsupported kind => kind ++ " capture is not supported by this profiler"
  | .failed kind reason => kind ++ " capture failed: " ++ reason

def inspect : CaptureError → String
  | .unsupported kind => "Unsupported(" ++ Text.Quoted.quote kind ++ ")"
  | .failed kind reason =>
    "Failed \x7b kind: " ++ Text.Quoted.quote kind ++ ", message: " ++ Text.Quoted.quote reason ++
      " \x7d"

end CaptureError

end Telemetry
