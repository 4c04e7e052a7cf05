import Telemetry.Config.Duration
import Telemetry.Config.Environment

/-!
Configuration of the client of the collector.

A configuration from the environment takes the default for every unset variable, and also for a
timeout that is no number. It is accepted if it has a token or sends nothing, and if neither the
address nor the timeout is empty.
-/
namespace Telemetry

/-- How the client talks to the collector. -/
structure ClientConfig where
  token : String
  apiBase : String
  userAgent : String
  environment : String
  appGroup : String
  agentName : String
  /-- Nothing is sent. -/
  noPost : Bool
  /-- Every reported panic is logged with its backtrace. -/
  printPanics : Bool
  timeout : Duration
  httpsProxy : Option String
  deriving DecidableEq, Repr

def apiVersion : String := "v1.17"

namespace ClientConfig

/-- The configuration without a token. -/
def default : ClientConfig where
  token := ""
  apiBase := "https://api.deferpanic.com/" ++ apiVersion
  userAgent := "deferclient " ++ apiVersion
  environment := "production"
  appGroup := "default"
  agentName := "unknown"
  noPost := false
  printPanics := false
  timeout := .ofSeconds 30
  httpsProxy := none

instance : Inhabited ClientConfig := ⟨default⟩

def withToken (token : String) : ClientConfig :=
  { default with token }

/-- Accepts a configuration or says what is wrong with it. -/
def validate (c : ClientConfig) : Except ConfigError Unit :=
  if !c.noPost && Text.isBlankText c.token then .error .missingToken
  else if Text.isBlankText c.apiBase then .error (.invalid "api_base cannot be empty")
  else if c.timeout.isZero then .error (.invalid "timeout must be greater than 0")
  else .ok ()

def dropSlashes (s : String) : String :=
  String.ofList (s.toList.reverse.dropWhile (· = '/')).reverse

/-- The timeout that the environment asks for; a text that is no number asks for none. -/
def timeoutOf (env : Environment) : Duration :=
  match env.get? "DEFERPANIC_TIMEOUT_SECS" with
  | some text =>
    match Text.readUInt64 text.toList with
    | .ok seconds => .ofSeconds seconds.toNat
    | .error _ => default.timeout
  | none => default.timeout

/-- The configuration that the environment asks for, accepted or not. -/
def draft (env : Environment) : ClientConfig where
  token := (env.get? "DEFERPANIC_TOKEN").getD ""
  apiBase := ((env.get? "DEFERPANIC_API_URL").map dropSlashes).getD default.apiBase
  userAgent := default.userAgent
  environment := (env.get? "DEFERPANIC_ENVIRONMENT").getD default.environment
  appGroup := (env.get? "DEFERPANIC_APP_GROUP").getD default.appGroup
  agentName :=
    (env.get? "DEFERPANIC_AGENT_NAME").getD ((env.get? "HOSTNAME").getD default.agentName)
  noPost := env.flag "DEFERPANIC_NO_POST"
  printPanics := env.flag "DEFERPANIC_PRINT_PANICS"
  timeout := timeoutOf env
  httpsProxy := (env.get? "DEFERPANIC_PROXY_HTTPS").or (env.get? "HTTPS_PROXY")

/-- The configuration that the environment asks for. -/
def fromEnvironment (env : Environment) : Except ConfigError ClientConfig := do
  let config := draft env
  config.validate
  return config

def url (c : ClientConfig) (path : String) : String :=
  c.apiBase ++ path

end ClientConfig

end Telemetry
