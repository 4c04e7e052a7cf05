import Telemetry.Agent.Display
import Telemetry.Agent.LogFilter
import Telemetry.Client.Transport
import Telemetry.Config.Agent
import Telemetry.Server.Loop

/-!
The life of the agent.

The log filter comes first, since nothing can be logged without it; then the configuration, the
client and the listener. The first of these that fails is logged and ends the agent without a
failure of the process; a filter that cannot be read ends the process at once.
-/
namespace Telemetry.Agent

/-- The target of lines about the agent as a whole. -/
def mainTarget : String := "deferpanic_agent"

def serverTarget : String := "deferpanic_agent::server"

def ofAgent (line : LogLine) : TargetedLine := ⟨mainTarget, line⟩

def ofServer (line : LogLine) : TargetedLine := ⟨serverTarget, line⟩

/-- The agent's log filter, `none` if it cannot be read. Without directives it shows nothing. -/
def filter? (env : Environment) : Option LogFilter :=
  LogFilter.parse? (AgentConfig.logLevel env).toList

/-- What the agent needs before it can listen. -/
structure Ready where
  config : AgentConfig
  client : Client

/-- How preparing ends, with the lines written on the way. -/
structure Prepared where
  lines : List TargetedLine
  ready : Option Ready

/-- The line about a configuration that is refused. -/
def configRefused (e : ConfigError) : LogLine :=
  .error ("Error creating config on deferpanic agent startup: " ++ e.message)

def clientRefused (e : ClientError) : LogLine :=
  .error ("Error creating deferpanic client: " ++ e.message)

/-- The line of an agent that sends nothing. -/
def silentAgent : LogLine := .info "no_post is set, nothing will be sent to the collector"

def prepare (env : Environment) (collector : Collector) : Prepared :=
  let opening := [ofAgent (.debug "Logging subsystem enabled")]
  match AgentConfig.fromEnvironment env with
  | .error e => ⟨opening ++ [ofAgent (configRefused e)], none⟩
  | .ok config =>
    match Client.connect config.client collector true with
    | .error e => ⟨opening ++ [ofAgent (clientRefused e)], none⟩
    | .ok client =>
      ⟨opening ++ if config.client.noPost then [ofAgent silentAgent] else [],
        some ⟨config, client⟩⟩

def address (port : UInt16) : String :=
  "0.0.0.0:" ++ String.ofList (Text.decimal port.toNat)

/-- What the system says to a port that somebody else listens on. -/
def addressInUse : String := "Address already in use (os error 98)"

/-- The lines about the listener, or about its failure. -/
def listening (config : AgentConfig) (bound : Except String Unit) (elapsed : Duration) :
    List TargetedLine :=
  match bound with
  | .error reason =>
    [ofAgent (.error ("Failed to bind " ++ address config.port ++ ": " ++ reason))]
  | .ok () =>
    [ofAgent (.info ("deferpanic agent listening on " ++ address config.port)),
     ofAgent (.debug ("Time taken to start the deferpanic agent: " ++
      String.ofList (Text.decimal elapsed.milliseconds) ++ " ms"))]

/-- The lines of an agent that serves what the given events bring until they end the loop. -/
def serving (events : List (Server.Event κ)) : List TargetedLine :=
  let (loop, lines) := (Server.Loop.start : Server.Loop κ).run events
  lines.map ofServer ++
    match loop.result with
    | some (.error e) => [ofAgent (.error ("deferpanic agent stopped: " ++ e.message))]
    | _ => []

/-- What the surroundings of an agent do: whether the port can be listened on, how long it takes
to start, and the events after that. -/
structure Surroundings where
  bound : Except String Unit
  elapsed : Duration
  events : List (Server.Event Bytes)

/-- Every line of an agent that can read its filter, shown or not. -/
def life (env : Environment) (collector : Collector) (around : Surroundings) :
    List TargetedLine :=
  let prepared := prepare env collector
  match prepared.ready with
  | none => prepared.lines
  | some ready =>
    prepared.lines ++ listening ready.config around.bound around.elapsed ++
      match around.bound with
      | .ok () => serving around.events
      | .error _ => []

/-- How a process ended: its exit code and the lines it has shown. -/
structure Exit where
  code : Nat
  lines : List TargetedLine
  deriving DecidableEq, Repr

def run (env : Environment) (collector : Collector) (around : Surroundings) : Exit :=
  match filter? env with
  | none => ⟨101, []⟩
  | some filter =>
    ⟨0, (life env collector around).filter fun t => filter.shows t.target t.line.level⟩

end Telemetry.Agent
