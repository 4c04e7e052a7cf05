import Telemetry.Http.Wire
import Telemetry.Request.Service

/-!
One connection.

The requests on a connection are answered in order until the client has nothing more to send, one
side asks for the end, or a fault makes it impossible to go on. A head that breaks the rules is
still answered. A connection on which nothing was sent ends without a fault.
-/
namespace Telemetry.Server

open Http

/-- Why a connection ended early. -/
inductive ConnectionFault where
  | refused (reason : Refusal)
  | otherProtocol
  | incomplete
  | interimStatus
  deriving DecidableEq, Repr

def ConnectionFault.message : ConnectionFault → String
  | .refused reason => reason.message
  | .otherProtocol => "invalid HTTP version parsed (found HTTP2 preface)"
  | .incomplete => "connection closed before message completed"
  | .interimStatus => "response with 1xx status code not supported"

/-- What happened on a connection. -/
structure Conversation where
  responses : List Response
  fault : Option ConnectionFault
  deriving DecidableEq, Repr

namespace Conversation

/-- A connection that ends without a response. -/
def silent (fault : Option ConnectionFault) : Conversation := ⟨[], fault⟩

def after (first : List Response) (c : Conversation) : Conversation :=
  { c with responses := first ++ c.responses }

end Conversation

namespace Connection

/-- How a connection in another version of the protocol begins. -/
def otherPreface : Bytes := Head.ascii "PRI * HTTP/2.0\r\n\r\nSM\r\n\r\n"

/-- Whether a request opens a tunnel with this response. -/
def opensTunnel (method : String) (status : Status) : Bool :=
  method == "CONNECT" && status.isSuccess

def hasBody (method : String) (status : Status) : Bool :=
  method != "HEAD" && !opensTunnel method status && status.allowsBody

/-- A response as the client receives it. -/
def received (method : String) (r : Response) : Response where
  status := r.status
  headers := r.headers.map fun (name, value) =>
    (name, ⟨Head.trimBlanks value.bytes, by
      have h := value.valid
      simp only [List.all_eq_true] at h ⊢
      intro b hb
      refine h b ?_
      have := List.dropWhile_sublist Head.isBlankByte (l := value.bytes)
      have := List.dropWhile_sublist Head.isBlankByte
        (l := (value.bytes.dropWhile Head.isBlankByte).reverse)
      grind [Head.trimBlanks, List.Sublist.mem]⟩)
  body := if hasBody method r.status then r.body else []

/-- Whether the headers of a response end the connection. A client of HTTP/1.0 that is to stay
is told so, and unless the response does that itself, its own words are replaced. -/
def endsWith (version : Version) (headers : Headers) : Bool :=
  let first := (headers.get? Head.connection).map Head.wordsOf
  if version = .http10 ∧ !(first.getD []).contains "keep-alive" then false
  else (Head.words headers Head.connection).contains "close"

/-- Whether the connection ends with this response, even if the body of the request is whole. -/
def isLast (head : Head) (r : Response) : Bool :=
  !head.staysOpen || endsWith head.version r.headers || r.status.code == 101 ||
    opensTunnel head.method r.status

def brokenBody : IoError := ⟨"UnexpectedEof", "error reading a body from connection"⟩

def incoming (pieces : Option (List Bytes)) : IncomingBody :=
  match pieces with
  | some frames => ⟨frames, none⟩
  | none => ⟨[], some brokenBody⟩

/-- The end of a connection whose next head is not there. -/
def ending (bytes : Bytes) : Conversation :=
  .silent (if bytes.all Head.isLineEnd then none else some .incomplete)

/-- The answer to a head that is refused while the given bytes are waiting. -/
def refuse (reason : Refusal) (waiting : Bytes) : Conversation :=
  if otherPreface.isPrefixOf (waiting.dropWhile Head.isLineEnd) then
    .silent (some .otherProtocol)
  else ⟨[⟨reason.status, [], []⟩], some (.refused reason)⟩

/-- What comes of a request: the responses to it, the fault that ends the connection if there is
one, and the wire after the request if the connection goes on. -/
structure Exchange where
  responses : List Response
  fault : Option ConnectionFault
  next : Option Wire
  deriving DecidableEq, Repr

/-- The signal that the server is ready for a body, to a client that waits for it. -/
def signal (head : Head) : List Response :=
  if head.awaitsSignal then [⟨.goOn, [], []⟩] else []

def answer (service : Service) (head : Head) (wire : Wire) (h : Host) : Exchange × Host :=
  let body := wire.readBody head.framing
  let request : Request := ⟨head.method, head.target, head.headers, []⟩
  let (called, h) := service.call request (incoming (body.map Prod.fst)) h
  let response := called.response
  if response.status.isInterim then
    (⟨signal head ++ [⟨.internalServerError, [], []⟩], some .interimStatus, none⟩, h)
  else
    (⟨signal head ++ [received head.method response], none,
      if isLast head response then none else body.map Prod.snd⟩, h)

def answerAll (service : Service) : Nat → Wire → Host → Conversation × Host
  | 0, wire, h => (ending wire.arrived, h)
  | most + 1, wire, h =>
    match wire.awaitHead 0 with
    | .ended arrived => (ending arrived, h)
    | .refused reason arrived => (refuse reason arrived, h)
    | .lines lines wire =>
      match Head.ofLines lines with
      | .error reason => (refuse reason wire.arrived, h)
      | .ok head =>
        let (exchange, h) := answer service head wire h
        match exchange.next with
        | none => (⟨exchange.responses, exchange.fault⟩, h)
        | some wire =>
          let (others, h) := answerAll service most wire h
          (others.after exchange.responses, h)

/-- The line about a connection that ended with a fault. -/
def faultLine (fault : ConnectionFault) : LogLine :=
  .error ("Connection error: " ++ fault.message)

/-- Serves a connection on which the client sends the given bytes and then no more. Each request
takes at least one byte. -/
def serve (service : Service) (bytes : Bytes) (h : Host) : Conversation × Host :=
  let (conversation, h) := answerAll service (bytes.length + 1) (.ofBytes bytes) h
  match conversation.fault with
  | none => (conversation, h)
  | some fault => (conversation, h.write (faultLine fault))

end Connection

end Telemetry.Server
