import Telemetry.Server.Connection
import Telemetry.Server.Loop

/-!
Serving connections.

The loop decides which connections are served; what is said on a connection is settled when its
task ends. A connection is given by the bytes that its client sends.
-/
namespace Telemetry.Server

/-- A server: its loop, and the conversations of the tasks that have finished. -/
structure Serving where
  loop : Loop Bytes
  conversations : List (Nat × Conversation)

namespace Serving

def start : Serving := ⟨.start, []⟩

/-- The connection of a task that has not finished. -/
def connectionOf? (task : Nat) (s : Serving) : Option Bytes :=
  if s.loop.running.contains task then s.loop.connections[task]? else none

/-- Serves the connection of a task to its end. -/
def converse (service : Service) (task : Nat) (s : Serving) (h : Host) : Serving × Host :=
  match s.connectionOf? task with
  | none => (s, h)
  | some bytes =>
    let (conversation, h) := Connection.serve service bytes h
    ({ s with conversations := s.conversations ++ [(task, conversation)] }, h)

def step (service : Service) (e : Event Bytes) (s : Serving) (h : Host) : Serving × Host :=
  let (s, h) :=
    match e with
    | .connectionEnded task => s.converse service task h
    | _ => (s, h)
  let (loop, lines) := s.loop.step e
  ({ s with loop }, h.writeAll lines)

def run (service : Service) : List (Event Bytes) → Serving → Host → Serving × Host
  | [], s, h => (s, h)
  | e :: rest, s, h =>
    let (s, h) := s.step service e h
    run service rest s h

/-- What was said on the connection of a task, `none` if the task never finished. -/
def conversation? (task : Nat) (s : Serving) : Option Conversation :=
  s.conversations.lookup task

end Serving

end Telemetry.Server
