import Telemetry.Client.Error
import Telemetry.Command.Registry
import Telemetry.Command.Reply
import Telemetry.Config.Client
import Telemetry.Http.Header
import Telemetry.Http.Status
import Telemetry.Log
import Telemetry.Panic.Backtrace
import Telemetry.Stats.Counter
import Telemetry.Stats.Outcome

/-!
The client of the collector and the process it lives in.

A client sends through a transport, runs captures through a profiler and leaves reports and
captures to background tasks. A client that is made, its clones and the clients derived from it are
one family, and a host is the world of one family: the registry of started commands, which only
they share, and what the process holds for them, the statistics, the tasks and the POSTs sent so
far. The collector and the profiler may answer each time as they like, so both are given everything
they have seen before.
-/
namespace Telemetry

/-- One POST that was handed to the transport. -/
structure Post where
  url : String
  headers : Http.Headers
  body : Bytes
  deriving DecidableEq, Repr

/-- What the collector answers. -/
structure Reply where
  status : Http.Status
  body : Bytes
  deriving DecidableEq, Repr

/-- The far side of the transport: its answer to a POST after all those before it. -/
abbrev Collector := List Post → Post → Except TransportError Reply

/-- One call of a profiler. -/
inductive Probe where
  | capture (kind : CaptureKind)
  | package
  deriving DecidableEq, Repr

/-- What takes the captures: its answers after all calls before. The package is the executable
that a trace was taken from. -/
structure Profiler where
  capture : List Probe → CaptureKind → Except CaptureError Bytes
  package : List Probe → Option Bytes

/-- The profiler of a process that cannot take captures. -/
def Profiler.unsupported : Profiler where
  capture := fun _ kind => .error (.unsupported kind.name)
  package := fun _ => none

/-- Whether the background that a client leaves its reports to is still there. A capture is asked
for in a reply, and whoever handles a reply is running, so captures need no such mark. -/
inductive Background where
  | running
  | gone
  deriving DecidableEq, Repr

/-- A client of the collector. -/
structure Client where
  config : ClientConfig
  agent : Agent
  collector : Collector
  profiler : Profiler
  background : Background

/-- The work of a background task. -/
inductive Task where
  | report (client : Client) (message trace : String) (span : Int64)
  | capture (client : Client) (id : Int64) (kind : CaptureKind)

/-- The world of one family of clients. `commands` is their registry; a client that is made anew
founds a family with a host of its own. Lists have the oldest element first; `slot` belongs to the
thread that is running, and `site` is a backtrace taken on the spot. -/
structure Host where
  commands : CommandRegistry
  outcomes : OutcomeBuffer
  statusCodes : StatusCounter
  posts : List Post
  probes : List Probe
  tasks : List Task
  log : List LogLine
  slot : BacktraceSlot String
  site : String
  spansDrawn : Nat

namespace Host

def fresh (site : String) : Host where
  commands := .empty
  outcomes := .empty
  statusCodes := .empty
  posts := []
  probes := []
  tasks := []
  log := []
  slot := none
  site := site
  spansDrawn := 0

def write (line : LogLine) (h : Host) : Host :=
  { h with log := h.log ++ [line] }

def writeAll (lines : List LogLine) (h : Host) : Host :=
  { h with log := h.log ++ lines }

def spawn (t : Task) (h : Host) : Host :=
  { h with tasks := h.tasks ++ [t] }

/-- A panic leaves its backtrace in the slot of the running thread. -/
def raise (payload : Payload) (backtrace : String) (h : Host) : Host :=
  { h with slot := .raise payload backtrace }

/-- Does something on a thread of its own, whose slot is empty at first and is not seen again. -/
def onOwnThread (f : Host → α × Host) (h : Host) : α × Host :=
  let (a, after) := f { h with slot := none }
  (a, { after with slot := h.slot })

end Host

namespace Client

/-- Makes a client, the first of its family. It needs an accepted configuration and, where it is
made, something that runs background tasks. -/
def make (config : ClientConfig) (collector : Collector) (hasBackground : Bool) :
    Except ClientError Client :=
  match config.validate with
  | .error e => .error (.config e)
  | .ok () =>
    if hasBackground then
      .ok ⟨config, ⟨config.agentName⟩, collector, .unsupported, .running⟩
    else .error .noRuntime

/-- A client of the same family with another profiler. -/
def withProfiler (profiler : Profiler) (c : Client) : Client :=
  { c with profiler }

def panicsPath : String := "/panics/create"

def statsPath : String := "/uploads/stats/create"

def capturePath : CaptureKind → String
  | .trace => "/uploads/trace/create"
  | .cpuProfile => "/uploads/cpuprofile/create"
  | .memProfile => "/uploads/memprofile/create"

def tokenHeader : Http.HeaderName := ⟨"x-deferid".toList, by decide⟩

def userAgentHeader : Http.HeaderName := ⟨"user-agent".toList, by decide⟩

def environmentHeader : Http.HeaderName := ⟨"x-dpenv".toList, by decide⟩

def appGroupHeader : Http.HeaderName := ⟨"x-dpgroup".toList, by decide⟩

def agentHeader : Http.HeaderName := ⟨"x-dpagentid".toList, by decide⟩

/-- The headers of every POST, unless a text of the configuration cannot stand in a header. -/
def headers (c : Client) : Except Http.HeaderError Http.Headers := do
  let token ← Http.HeaderValue.ofString c.config.token
  let userAgent ← Http.HeaderValue.ofString c.config.userAgent
  let environment ← Http.HeaderValue.ofString c.config.environment
  let appGroup ← Http.HeaderValue.ofString c.config.appGroup
  let agent ← Http.HeaderValue.ofString c.agent.name
  return [(tokenHeader, token), (.contentType, .json), (userAgentHeader, userAgent),
    (environmentHeader, environment), (appGroupHeader, appGroup), (agentHeader, agent)]

end Client

end Telemetry
