import Telemetry.Client.Basic

/-!
The transport over HTTP.

An answer has arrived once both its head and its whole body are there. What the network brings is
given; the transport only tells an answer from the two ways in which it can be missing.
-/
namespace Telemetry.Transport

/-- What comes back for a POST: no head of a response, or a head with a body or without. -/
inductive Arrival where
  | nothing (reason : String)
  | head (status : Http.Status) (body : Except String Bytes)

/-- What arrives when a collector announces a body of a given size, sends some bytes and closes
the connection. -/
def Arrival.ofClosed (status : Http.Status) (announced : Nat) (sent : Bytes) : Arrival :=
  if status.isInterim then .nothing "connection closed before message completed"
  else if !status.allowsBody then .head status (.ok [])
  else if sent.length < announced then
    .head status (.error "end of file before message length reached")
  else .head status (.ok (sent.take announced))

def answered (status : Http.Status) (elapsed : Duration) (url : String) : LogLine :=
  .debug ("Collector answered " ++ status.describe ++ " in " ++
    String.ofList (Text.decimal elapsed.milliseconds) ++ " ms for " ++ url)

/-- The answer to a POST to an address and the lines logged on the way. -/
def receive (url : String) (elapsed : Duration) (arrival : Arrival) :
    Except TransportError Reply × List LogLine :=
  match arrival with
  | .nothing reason => (.error (.send url reason), [])
  | .head _ (.error reason) => (.error (.body reason), [])
  | .head status (.ok body) => (.ok ⟨status, body⟩, [answered status elapsed url])

/-- Whether an address of a proxy can be read: a host in brackets must close them. -/
def isProxyAddress (address : String) : Bool :=
  let cs := address.toList
  !cs.contains '[' || cs.contains ']'

/-- Makes the transport of a configuration, or says why there is none. -/
def build (httpsProxy : Option String) : Except TransportError Unit :=
  match httpsProxy with
  | none => .ok ()
  | some address => if isProxyAddress address then .ok () else .error (.build "builder error")

end Telemetry.Transport

namespace Telemetry.Client

/-- Makes a client that sends over HTTP. The transport is made before the configuration is looked
at. -/
def connect (config : ClientConfig) (collector : Collector) (hasBackground : Bool) :
    Except ClientError Client :=
  match Transport.build config.httpsProxy with
  | .error e => .error (.transport e)
  | .ok () => make config collector hasBackground

end Telemetry.Client
