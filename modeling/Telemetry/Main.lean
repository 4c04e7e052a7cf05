import Telemetry.Agent.Startup
import Telemetry.Request.Demo
import Telemetry.Server.Serve

/-!
The agent as a program.

It takes its configuration from the environment and serves the one connection that it is handed as
its standard input and output. The lines of its log go to the standard error. It reaches no
collector, so every report is logged as not sent.
-/
namespace Telemetry.Agent

def variableNames : List String :=
  ["DEFERPANIC_TOKEN", "DEFERPANIC_API_URL", "DEFERPANIC_ENVIRONMENT", "DEFERPANIC_APP_GROUP",
   "DEFERPANIC_AGENT_NAME", "HOSTNAME", "DEFERPANIC_NO_POST", "DEFERPANIC_PRINT_PANICS",
   "DEFERPANIC_TIMEOUT_SECS", "DEFERPANIC_PROXY_HTTPS", "HTTPS_PROXY",
   "DEFERPANIC_LATENCY_THRESHOLD_MS", "DEFERPANIC_FLUSH_INTERVAL_SECS", "DEFERPANIC_PORT",
   "DEFERPANIC_LOG_LEVEL"]

def readEnvironment : IO Environment := do
  let mut entries := #[]
  for name in variableNames do
    if let some value ← IO.getEnv name then
      entries := entries.push (name, Text.Utf8.ofString value)
  return ⟨entries.toList⟩

/-- A collector that cannot be reached. -/
def unreachable : Collector := fun _ post => .error (.send post.url "no network")

/-- Everything on a stream. -/
partial def readAll (input : IO.FS.Stream) (before : ByteArray) : IO ByteArray := do
  let chunk ← input.read 65536
  if chunk.isEmpty then return before
  readAll input (before ++ chunk)

def serviceOf (ready : Ready) (seed : Nat) : Service where
  interceptor :=
    { client := ready.client
      thresholdMs := ready.config.stats.latencyThresholdMs
      responder := .standard
      spans := .seeded seed }
  handler := Demo.handler ""
  worker := fun n => String.ofList (Text.decimal n)

/-- Serves the connection on the standard streams. -/
def serveStandardStreams (ready : Ready) (display : LogLine → IO Unit) : IO Unit := do
  let bytes ← readAll (← IO.getStdin) ByteArray.empty
  let service := serviceOf ready (← IO.rand 0 Text.int64Half)
  let events := [.accepted bytes.toList "standard input", .connectionEnded 0, .cancelled]
  let (serving, host) := Server.Serving.run service events .start (Host.fresh "")
  let output ← IO.getStdout
  for (_, conversation) in serving.conversations do
    for response in conversation.responses do
      output.write ⟨response.bytes.toArray⟩
  output.flush
  for line in host.settle.log do
    display line

end Telemetry.Agent

open Telemetry Telemetry.Agent in
def main : IO UInt32 := do
  let began ← IO.monoMsNow
  let env ← readEnvironment
  match filter? env with
  | none => return 101
  | some filter =>
    let display (t : TargetedLine) : IO Unit := do
      if filter.shows t.target t.line.level then IO.eprintln t.render
    let prepared := prepare env unreachable
    prepared.lines.forM display
    if let some ready := prepared.ready then
      let elapsed := Duration.ofMilliseconds ((← IO.monoMsNow) - began)
      (listening ready.config (.ok ()) elapsed).forM display
      serveStandardStreams ready fun line => display (ofServer line)
    return 0
