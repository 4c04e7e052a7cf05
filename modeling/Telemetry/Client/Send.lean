import Telemetry.Capture.Upload
import Telemetry.Client.Basic
import Telemetry.Panic.Report

/-!
Sending to the collector and acting on its replies.

A POST is dropped if nothing is to be sent or a header would be invalid; otherwise the transport
is called once. Commands in a reply are looked at only where the sender asks for it, and the
status of the reply has no say in that. Each command of a known kind starts at most once for its
id; the others are passed over.
-/
namespace Telemetry.Client

/-- What the log says about an answered POST. -/
def verdict (status : Http.Status) (url : String) : LogLine :=
  if status = .unauthorized then .error "wrong or invalid API token"
  else if status = .tooManyRequests then .warn "too many requests - you are being rate limited"
  else if status = .serviceUnavailable then .error "service not available"
  else .debug ("Collector answered " ++ status.describe ++ " for " ++ url)

/-- Starts the capture that one command asks for, if its kind is known and its id is new. -/
def dispatchOne (c : Client) (agent : Agent) (command : Command) (h : Host) : Bool × Host :=
  match command.kind with
  | .unknown text => (false, h.write (.warn ("Unknown command " ++ text)))
  | .known kind =>
    match h.commands.tryStart command.id with
    | (false, _) => (false, h)
    | (true, commands) =>
      let line := "Dispatching " ++ kind.name ++ " command " ++
        String.ofList (Text.decimalInt command.id.toInt) ++ " for agent " ++ agent.name
      (true, (({ h with commands } : Host).write (.debug line)).spawn
        (.capture c command.id kind))

/-- Starts the captures that commands ask for and counts them. -/
def dispatch (c : Client) (agent : Agent) : List Command → Host → Nat × Host
  | [], h => (0, h)
  | command :: rest, h =>
    let (started, h) := c.dispatchOne agent command h
    let (count, h) := c.dispatch agent rest h
    ((if started then 1 else 0) + count, h)

/-- Decodes the body of a reply and starts the captures it asks for. -/
def analyse (c : Client) (body : Bytes) (h : Host) : Nat × Host :=
  match CollectorReply.decode body with
  | .ok reply => c.dispatch reply.agent reply.commands h
  | .error e => (0, h.write (.error ("Failed to decode collector response: " ++ e.message)))

/-- Hands a POST to the transport. -/
def exchange (c : Client) (post : Post) (h : Host) : Except TransportError Reply × Host :=
  (c.collector h.posts post, { h with posts := h.posts ++ [post] })

/-- Starts a POST of a body to an address; `none` if nothing is sent. -/
def begin? (c : Client) (body : Bytes) (url : String) (h : Host) :
    Option (Except TransportError Reply) × Host :=
  if c.config.noPost then (none, h)
  else
    match c.headers with
    | .error e =>
      (none, h.write (.error ("Invalid collector header value, request to " ++ url ++
        " dropped: " ++ e.message)))
    | .ok headers =>
      let (answer, h) := c.exchange ⟨url, headers, body⟩ h
      (some answer, h)

/-- Ends a POST with the transport's answer, acting on a reply if `analyse` is set. -/
def conclude (c : Client) (url : String) (analyse : Bool)
    (answer : Except TransportError Reply) (h : Host) : Host :=
  match answer with
  | .error e => h.write (.error e.message)
  | .ok reply =>
    let h := h.write (verdict reply.status url)
    if analyse then (c.analyse reply.body h).2 else h

/-- POSTs a body to an address, acting on the reply if `analyse` is set. -/
def post (c : Client) (body : Bytes) (url : String) (analyse : Bool) (h : Host) : Host :=
  match c.begin? body url h with
  | (none, h) => h
  | (some answer, h) => c.conclude url analyse answer h

def shipTrace (c : Client) (trace message : String) (span : Int64) (h : Host) : Host :=
  if c.config.noPost then h
  else c.post (PanicReport.make message trace span).encode (c.config.url panicsPath) false h

def takeCapture (c : Client) (kind : CaptureKind) (h : Host) :
    Except CaptureError Bytes × Host :=
  (c.profiler.capture h.probes kind, { h with probes := h.probes ++ [.capture kind] })

/-- Takes the package of a trace; other captures have none. -/
def takePackage (c : Client) (kind : CaptureKind) (h : Host) : Bytes × Host :=
  match kind with
  | .trace => ((c.profiler.package h.probes).getD [], { h with probes := h.probes ++ [.package] })
  | _ => ([], h)

/-- The upload of a capture, which tells the collector to ignore a command that failed. -/
def captureUpload (c : Client) (id : Int64) (kind : CaptureKind) (h : Host) :
    CaptureUpload × Host :=
  match c.takeCapture kind h with
  | (.ok out, h) =>
    let (package, h) := c.takePackage kind h
    (⟨id, out, package, false⟩, h)
  | (.error e, h) =>
    let line := "Command " ++ String.ofList (Text.decimalInt id.toInt) ++
      " could not be executed: " ++ e.message
    (⟨id, [], [], true⟩, h.write (.error line))

def runCapture (c : Client) (id : Int64) (kind : CaptureKind) (h : Host) : Host :=
  let (upload, h) := c.captureUpload id kind h
  c.post upload.encode (c.config.url (capturePath kind)) false h

end Telemetry.Client

namespace Telemetry

def Task.run : Task → Host → Host
  | .report client message trace span => client.shipTrace trace message span
  | .capture client id kind => client.runCapture id kind

namespace Host

def runTasks (tasks : List Task) (h : Host) : Host :=
  tasks.foldl (fun h t => t.run h) h

/-- Runs the background tasks to their ends, in the order in which they were queued. No task
queues another one. -/
def settle (h : Host) : Host :=
  ({ h with tasks := [] } : Host).runTasks h.tasks

/-- Ends one of the background tasks, the one at a given place in the queue. -/
def finish (index : Nat) (h : Host) : Host :=
  match h.tasks[index]? with
  | some t => t.run { h with tasks := h.tasks.eraseIdx index }
  | none => h

end Host

end Telemetry
