import Telemetry.Log

/-!
The loop that accepts connections.

The loop goes on after each accepted connection, each finished one and each failure that concerns
a single connection. It ends with the first of the other events: well if it is cancelled, and with
an error if the listener fails or the flusher has ended. Each accepted connection is given to a
task of its own, and no task outlives the loop.
-/
namespace Telemetry.Server

/-- Why the listener has no connection to give. -/
inductive AcceptError where
  | aborted
  | reset
  | refused
  | other (reason : String)
  deriving DecidableEq, Repr

/-- Whether the failure concerns one connection only. -/
def AcceptError.isPassing : AcceptError → Bool
  | .aborted | .reset | .refused => true
  | .other _ => false

def AcceptError.message : AcceptError → String
  | .aborted => "connection aborted"
  | .reset => "connection reset"
  | .refused => "connection refused"
  | .other reason => reason

/-- How the flusher ended. -/
inductive FlusherEnd where
  | returned
  | failed (reason : String)
  deriving DecidableEq, Repr

def FlusherEnd.describe : FlusherEnd → String
  | .returned => "Ok(())"
  | .failed reason => "Err(" ++ reason ++ ")"

/-- Why the task of a connection did not come to its end. A fault of the connection is no reason:
the task itself sees to that. -/
inductive TaskError where
  | panicked (reason : String)
  | aborted
  deriving DecidableEq, Repr

/-- The lines about a task that did not come to its end. -/
def TaskError.lines : TaskError → List LogLine
  | .panicked reason => [.error ("Connection handler panicked: " ++ reason)]
  | .aborted => []

/-- What the loop waits for. Tasks are numbered in the order in which they were started. -/
inductive Event (κ : Type) where
  | accepted (connection : κ) (peer : String)
  | acceptFailed (error : AcceptError)
  | connectionEnded (task : Nat)
  | connectionFailed (task : Nat) (error : TaskError)
  | flusherEnded (how : FlusherEnd)
  | cancelled
  deriving DecidableEq, Repr

/-- Why the loop failed. -/
inductive ServeError where
  | accept (error : AcceptError)
  | flusherEnded
  deriving DecidableEq, Repr

def ServeError.message : ServeError → String
  | .accept error => error.message
  | .flusherEnded => "Stats flusher task terminated unexpectedly"

/-- The loop: the connections given to tasks, the tasks that have not finished, whether the
flusher has been aborted, and the result once the loop has ended. -/
structure Loop (κ : Type) where
  connections : List κ
  running : List Nat
  flusherAborted : Bool
  result : Option (Except ServeError Unit)

namespace Loop

variable {κ : Type}

def start : Loop κ := ⟨[], [], false, none⟩

def give (connection : κ) (l : Loop κ) : Loop κ :=
  { l with
    connections := l.connections ++ [connection]
    running := l.running ++ [l.connections.length] }

/-- Ends the loop and with it every task. -/
def stop (result : Except ServeError Unit) (l : Loop κ) : Loop κ :=
  { l with running := [], result := some result }

/-- Takes an event that comes while the loop goes on. -/
def take (l : Loop κ) : Event κ → Loop κ × List LogLine
  | .accepted connection peer =>
    (l.give connection, [.debug ("Accepted connection from " ++ peer)])
  | .acceptFailed error =>
    if error.isPassing then (l, [])
    else (l.stop (.error (.accept error)), [.error ("Server error: " ++ error.message)])
  | .connectionEnded task => ({ l with running := l.running.erase task }, [])
  | .connectionFailed task error => ({ l with running := l.running.erase task }, error.lines)
  | .flusherEnded how =>
    (l.stop (.error .flusherEnded), [.error ("Stats flusher task died: " ++ how.describe)])
  | .cancelled =>
    ({ l.stop (.ok ()) with flusherAborted := true },
      [.info s!"Shutting down, closing {l.running.length} open connections"])

/-- Takes an event; once the loop has ended nothing happens. -/
def step (l : Loop κ) (e : Event κ) : Loop κ × List LogLine :=
  match l.result with
  | some _ => (l, [])
  | none => l.take e

/-- Whether an event can come. Only a task that has not finished can finish. -/
def offers (l : Loop κ) : Event κ → Bool
  | .connectionEnded task | .connectionFailed task _ => l.running.contains task
  | _ => true

def run (l : Loop κ) : List (Event κ) → Loop κ × List LogLine
  | [] => (l, [])
  | e :: rest =>
    let (l, lines) := l.step e
    let (l, more) := l.run rest
    (l, lines ++ more)

end Loop

end Telemetry.Server
