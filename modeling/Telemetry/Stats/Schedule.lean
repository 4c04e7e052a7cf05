import Telemetry.Stats.Flusher

/-!
The flusher on a clock.

Time is counted in milliseconds. The flusher uploads at each tick of a ticker; while an upload is
under way it takes no tick. A POST takes the same time always, and its answer is acted on when
that time has passed. What is due at one moment is done in the order in which it was put on the
agenda; the captures that this has asked for start after all of it. Between two moments at which
something is due nothing happens, so waiting goes from one to the next.
-/
namespace Telemetry

/-- A ticker: the time of the next tick and the time between two ticks. -/
structure Ticker where
  next : Nat
  period : Nat
  deriving DecidableEq, Repr

namespace Ticker

/-- How late a tick may be taken without moving those after it. -/
def leeway : Nat := 5

/-- The ticker after its next tick has been taken. The ticks after a tick that was taken too late
are counted from the time at which it was taken. -/
def taken (now : Nat) (t : Ticker) : Ticker :=
  { t with next := (if t.next + leeway < now then now else t.next) + t.period }

end Ticker

/-- What may stand on an agenda. -/
inductive Errand where
  | tick
  | answer (url : String) (analyse : Bool) (answer : Except TransportError Reply)

/-- A flusher and the background tasks it starts, at one moment. `starts` holds the times at which
the POSTs of the host were started. -/
structure Schedule where
  client : Client
  delay : Nat
  now : Nat
  ticker : Ticker
  agenda : List (Nat × Errand)
  starts : List Nat
  host : Host

namespace Schedule

/-- A flusher that starts now. Its first upload comes after one period. -/
def start (client : Client) (period delay : Nat) (host : Host) : Schedule where
  client := client
  delay := delay
  now := 0
  ticker := ⟨period, period⟩
  agenda := [(period, .tick)]
  starts := []
  host := host

/-- Puts something on the agenda. -/
def note (due : Nat) (errand : Errand) (s : Schedule) : Schedule :=
  { s with agenda := s.agenda ++ [(due, errand)] }

/-- Starts a POST; `true` if it is under way afterwards. -/
def send (client : Client) (body : Bytes) (url : String) (analyse : Bool) (s : Schedule) :
    Bool × Schedule :=
  match client.begin? body url s.host with
  | (none, host) => (false, { s with host })
  | (some answer, host) =>
    let s := { s with host, starts := s.starts ++ [s.now] }
    if s.delay = 0 then (false, { s with host := client.conclude url analyse answer s.host })
    else (true, s.note (s.now + s.delay) (.answer url analyse answer))

def startTask (s : Schedule) : Task → Schedule
  | .report client message trace span =>
    (s.send client (PanicReport.make message trace span).encode
      (client.config.url Client.panicsPath) false).2
  | .capture client id kind =>
    let (upload, host) := client.captureUpload id kind s.host
    ({ s with host }.send client upload.encode (client.config.url (Client.capturePath kind))
      false).2

/-- Starts the background tasks in the order in which they were queued. -/
def startTasks (s : Schedule) : Schedule :=
  s.host.tasks.foldl startTask { s with host := { s.host with tasks := [] } }

/-- Takes a tick: uploads what there is to upload. `true` if an upload is under way afterwards. -/
def takeTick (s : Schedule) : Bool × Schedule :=
  let (upload, host) := Client.drainStats s.host
  let s := { s with host, ticker := s.ticker.taken s.now }
  if upload.isEmpty then (false, s)
  else
    { s with host := s.host.write (Client.flushLine upload) }.send s.client upload.encode
      (s.client.config.url Client.statsPath) true

/-- Takes at most so many ticks that are due, as long as no upload is under way, and then waits
for the next one. -/
def takeTicks : Nat → Schedule → Schedule
  | 0, s => s
  | most + 1, s =>
    if s.now < s.ticker.next then s.note s.ticker.next .tick
    else
      match s.takeTick with
      | (true, s) => s
      | (false, s) => takeTicks most s

/-- The flusher goes on: it takes the ticks that are due and waits for the next one. Each tick
taken is followed by one at least a period later, so the count of ticks is bounded. -/
def goOn (s : Schedule) : Schedule :=
  s.takeTicks (s.now + 1 - s.ticker.next + 1)

def run (s : Schedule) : Errand → Schedule
  | .tick => s.goOn
  | .answer url analyse answer =>
    let s := { s with host := s.client.conclude url analyse answer s.host }
    if analyse then s.goOn else s

/-- Does what is due, and then starts the tasks that this has queued. -/
def runDue (s : Schedule) : Schedule :=
  let (due, later) := s.agenda.partition fun entry => decide (entry.1 ≤ s.now)
  let s := due.foldl (fun s entry => s.run entry.2) { s with agenda := later }
  s.startTasks

/-- The time of the first thing on the agenda, or the deadline if that comes before it. -/
def nextDue (deadline : Nat) (s : Schedule) : Nat :=
  s.agenda.foldl (fun first entry => min first entry.1) deadline

/-- Lets time pass up to a deadline. What falls due at the deadline is left for the next wait. -/
def waitUntil (deadline : Nat) (s : Schedule) : Schedule :=
  let due := max s.now (s.nextDue deadline)
  if due < deadline then
    waitUntil deadline { { s with now := due }.runDue with now := due + 1 }
  else { s with now := deadline }
termination_by deadline - s.now

def wait (time : Nat) (s : Schedule) : Schedule :=
  s.waitUntil (s.now + time)

end Schedule

end Telemetry
