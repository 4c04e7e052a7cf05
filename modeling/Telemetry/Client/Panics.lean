import Telemetry.Client.Send

/-!
Reporting panics.

A report is prepared on the thread that asks for it, which empties that thread's slot, and sent
by a background task. Waiting for the report means waiting for that task. A task whose background
is gone never runs, and whoever waits for it is told so.
-/
namespace Telemetry

/-- A panic: what it carries and the stack on which it was raised. -/
structure Panic where
  payload : Payload
  backtrace : String
  deriving DecidableEq, Repr

/-- How a piece of work ends. -/
inductive Ending (α : Type) where
  | returns (value : α)
  | panics (panic : Panic)
  deriving DecidableEq, Repr

/-- Where a blocking report is asked for. -/
inductive Caller where
  | plainThread
  | currentThreadRuntime
  | multiThreadRuntime
  deriving DecidableEq, Repr

namespace Caller

/-- Whether the caller can wait for a background task. -/
def canWait : Caller → Bool
  | .plainThread | .multiThreadRuntime => true
  | .currentThreadRuntime => false

end Caller

namespace Client

/-- The line that a lost report leaves behind. -/
def lostReport : LogLine := .error "Panic report task ended before completing"

/-- The line of a caller that cannot wait. -/
def cannotWait : LogLine := .warn "Cannot wait for the panic report on a current-thread runtime"

/-- The trace and the message of a report. The slot of the thread is empty afterwards. -/
def prepare (c : Client) (payload : Payload) (h : Host) : (String × String) × Host :=
  let message := payload.reportMessage
  let (trace, slot) := h.slot.take payload.message h.site
  let h := { h with slot }
  let h :=
    if c.config.printPanics then h.write (.error ("panic: " ++ message ++ "\n" ++ trace)) else h
  ((trace, message), h)

/-- Leaves a report to the background; nothing comes of it if the background is gone. -/
def leaveReport (c : Client) (message trace : String) (span : Int64) (h : Host) : Host :=
  match c.background with
  | .running => h.spawn (.report c message trace span)
  | .gone => h

/-- Reports a panic without waiting. -/
def report (c : Client) (payload : Payload) (span : Int64) (h : Host) : Host :=
  let ((trace, message), h) := c.prepare payload h
  c.leaveReport message trace span h

def await (c : Client) (h : Host) : Host :=
  match c.background with
  | .running => h.settle
  | .gone => h.write lostReport

/-- Reports a panic and waits until the report has been sent or given up. -/
def reportAndWait (c : Client) (payload : Payload) (span : Int64) (h : Host) : Host :=
  c.await (c.report payload span h)

/-- Reports a panic and blocks the caller until the report has been sent or given up. A caller
that cannot wait is told so and goes on. -/
def reportBlocking (c : Client) (caller : Caller) (payload : Payload) (span : Int64) (h : Host) :
    Host :=
  let h := c.report payload span h
  if caller.canWait then c.await h else h.write cannotWait

/-- Runs a piece of work and reports its panic; nothing is returned then. -/
def persist (c : Client) (work : Ending α) (h : Host) : Option α × Host :=
  match work with
  | .returns value => (some value, h)
  | .panics p => (none, c.report p.payload 0 (h.raise p.payload p.backtrace))

/-- Runs a piece of work, reports its panic and goes on with it. -/
def persistRepanic (c : Client) (caller : Caller) (work : Ending α) (h : Host) :
    Except Payload α × Host :=
  match work with
  | .returns value => (.ok value, h)
  | .panics p =>
    (.error p.payload, c.reportBlocking caller p.payload 0 (h.raise p.payload p.backtrace))

end Client

end Telemetry
