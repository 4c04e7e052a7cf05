import Telemetry.Config.Duration
import Telemetry.Config.Environment

/-!
Configuration of the request statistics.
-/
namespace Telemetry

/-- When a request is worth recording, and how often records are uploaded. -/
structure StatsConfig where
  latencyThresholdMs : UInt64
  flushIntervalSecs : UInt64
  deriving DecidableEq, Repr

namespace StatsConfig

/-- Half a second, and once a minute. -/
def default : StatsConfig := ⟨500, 60⟩

/-- Accepts a configuration or says what is wrong with it. -/
def validate (c : StatsConfig) : Except ConfigError Unit :=
  if c.flushIntervalSecs = 0 then .error (.invalid "flush_interval_secs must be greater than 0")
  else .ok ()

/-- The configuration that the environment asks for. -/
def fromEnvironment (env : Environment) : Except ConfigError StatsConfig := do
  let threshold ← env.number "DEFERPANIC_LATENCY_THRESHOLD_MS" Text.readUInt64
  let interval ← env.number "DEFERPANIC_FLUSH_INTERVAL_SECS" Text.readUInt64
  let config : StatsConfig :=
    ⟨threshold.getD default.latencyThresholdMs, interval.getD default.flushIntervalSecs⟩
  config.validate
  return config

def flushInterval (c : StatsConfig) : Duration :=
  .ofSeconds c.flushIntervalSecs.toNat

end StatsConfig

end Telemetry
