import Telemetry.Command.Kind
import Telemetry.Json.Reader

/-!
Replies of the collector and the commands they carry.

A reply names the agent and lists commands. On the wire the list is left out when it is empty;
on reading every member but the id of a command may be missing, and `null` stands for an empty
list.
-/
namespace Telemetry

open Json

/-- An agent as the collector knows it. -/
structure Agent where
  name : String
  deriving DecidableEq, Repr, Inhabited

/-- One action that the collector asks for. -/
structure Command where
  id : Int64
  type : String
  requested : Bool
  executed : Bool
  deriving DecidableEq, Repr

/-- The body of a reply. -/
structure CollectorReply where
  agent : Agent
  commands : List Command
  deriving DecidableEq, Repr

namespace Agent

/-- An agent without a name, which stands for a missing one. -/
def unnamed : Agent := ⟨""⟩

def document (a : Agent) : Document :=
  .ofMembers [("Name", .ofString a.name)]

def shape : Shape :=
  ⟨"Agent", [.of "Name" false Document.readString]⟩

def read (d : Document) : Result Agent := do
  let row ← shape.read d
  let name ← row.getD "Name" Document.readString ""
  return ⟨name⟩

end Agent

namespace Command

/-- A command that has been asked for and not yet executed. -/
def ask (id : Int64) (kind : CommandKind) : Command :=
  ⟨id, kind.name, true, false⟩

def kind (c : Command) : CommandKind :=
  .ofName c.type

def document (c : Command) : Document :=
  .ofMembers [("id", .ofInt c.id.toInt), ("type", .ofString c.type),
    ("requested", .ofBool c.requested), ("executed", .ofBool c.executed)]

def shape : Shape :=
  ⟨"Command", [.of "id" true Document.readInt64, .of "type" false Document.readString,
    .of "requested" false Document.readBool, .of "executed" false Document.readBool]⟩

def read (d : Document) : Result Command := do
  let row ← shape.read d
  let id ← row.need "id" Document.readInt64
  let type ← row.getD "type" Document.readString ""
  let requested ← row.getD "requested" Document.readBool false
  let executed ← row.getD "executed" Document.readBool false
  return ⟨id, type, requested, executed⟩

end Command

namespace CollectorReply

/-- Reads the commands, `null` standing for none. -/
def readCommands (d : Document) : Result (List Command) :=
  (Document.readOptional (Document.readList Command.read) d).map (·.getD [])

def document (r : CollectorReply) : Document :=
  .ofMembers (("AgentID", r.agent.document) ::
    if r.commands.isEmpty then []
    else [("Commands", .ofList (r.commands.map Command.document))])

def shape : Shape :=
  ⟨"CollectorResponse", [.of "AgentID" false Agent.read, .of "Commands" false readCommands]⟩

def read (d : Document) : Result CollectorReply := do
  let row ← shape.read d
  let agent ← row.getD "AgentID" Agent.read .unnamed
  let commands ← row.getD "Commands" readCommands []
  return ⟨agent, commands⟩

def encode (r : CollectorReply) : Bytes :=
  r.document.bytes

def decode (bytes : Bytes) : Result CollectorReply :=
  Json.decode read bytes

end CollectorReply

end Telemetry
