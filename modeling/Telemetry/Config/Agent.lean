import Telemetry.Config.Client
import Telemetry.Config.Stats

/-!
Configuration of the agent.

The port is looked at first, then the client, then the statistics; the first error counts.
-/
namespace Telemetry

/-- The whole configuration of the agent. -/
structure AgentConfig where
  port : UInt16
  client : ClientConfig
  stats : StatsConfig
  deriving DecidableEq, Repr

namespace AgentConfig

def defaultPort : UInt16 := 8080

/-- The configuration that the environment asks for. -/
def fromEnvironment (env : Environment) : Except ConfigError AgentConfig := do
  let port ← env.number "DEFERPANIC_PORT" Text.readUInt16
  let client ← ClientConfig.fromEnvironment env
  let stats ← StatsConfig.fromEnvironment env
  return ⟨port.getD defaultPort, client, stats⟩

/-- The log level that the environment asks for, in lower case. -/
def logLevel (env : Environment) : String :=
  ((env.get? "DEFERPANIC_LOG_LEVEL").map Text.lowered).getD "info"

end AgentConfig

end Telemetry
