import Mathlib.Logic.Function.Iterate
import Telemetry.Panic.Report
import Telemetry.Proofs.Client.Sending
import Telemetry.Request.Interceptor
import Telemetry.Stats.Flusher

/-!
What a process does at one time, cut into steps that nothing can interrupt.

An activity is a call in progress, or a background task that has been started. One step of it is
one critical section on the statistics or on the registry, one call of the transport or one
capture. Between two steps of an activity anything else may happen. `perform_alone` and
`run_alone` say that an activity which nothing interrupts does what the functions of the client
and of the interceptor do.
-/
namespace Telemetry

/-- A request whose handler has ended, with what the interceptor knows of it. -/
structure Served where
  interceptor : Interceptor
  request : Http.Request
  span : SpanContext
  status : UInt16
  elapsed : Duration
  isProblem : Bool

namespace Served

def outcome (r : Served) : RequestOutcome :=
  Interceptor.outcome r.request r.span r.status r.elapsed r.isProblem

/-- Whether the request is worth recording. -/
def isNotable (r : Served) : Bool :=
  r.interceptor.isNotable r.elapsed r.isProblem

/-- The parts of the account of the request, the first one first. -/
def account (r : Served) : (Host → Host) × (Host → Host) :=
  r.interceptor.account r.request r.span r.status r.elapsed r.isProblem

/-- A request whose handler has panicked. -/
def panicked : Served where
  interceptor := ⟨.unreached, 500, .standard, .seeded 0⟩
  request := ⟨"GET", ⟨"/"⟩, [], []⟩
  span := ⟨1, 0⟩
  status := 500
  elapsed := ⟨0⟩
  isProblem := true

end Served

/-- What a POST to the collector carries. -/
inductive Cargo where
  | stats (upload : StatsUpload)
  | report (report : PanicReport)
  | capture (kind : CaptureKind) (upload : CaptureUpload)

namespace Cargo

def path : Cargo → String
  | .stats _ => Client.statsPath
  | .report _ => Client.panicsPath
  | .capture kind _ => Client.capturePath kind

def body : Cargo → Bytes
  | .stats u => u.encode
  | .report r => r.encode
  | .capture _ u => u.encode

/-- Whether the sender looks for commands in the reply. -/
def seeksCommands : Cargo → Bool
  | .stats _ => true
  | .report _ | .capture .. => false

def post (c : Client) (headers : Http.Headers) (cargo : Cargo) : Post :=
  ⟨c.config.url cargo.path, headers, cargo.body⟩

end Cargo

/-- A look at the statistics, which takes nothing away. -/
inductive Look where
  | outcomes
  | size
  | count (status : UInt16)
  | counts

/-- What a look shows. -/
inductive Sight where
  | outcomes (list : List RequestOutcome)
  | size (size : Nat)
  | count (count : UInt64)
  | counts (counts : Dictionary UInt16 UInt64)

def Look.sight (h : Host) : Look → Sight
  | .outcomes => .outcomes h.outcomes.toList
  | .size => .size h.outcomes.size
  | .count status => .count (h.statusCodes.get status)
  | .counts => .counts h.statusCodes.snapshot

/-- What others can tell of a step. `tookCounts` holds all that the flush has taken, the outcomes
included. -/
inductive Deed where
  | counted (status : UInt16)
  | recorded (outcome : RequestOutcome)
  | tookOutcomes (requests : List RequestOutcome)
  | tookCounts (upload : StatsUpload)
  | sent (post : Post)
  | launched (task : Task)
  | saw (sight : Sight)

namespace Deed

def recorded? : Deed → Option RequestOutcome
  | .recorded o => some o
  | _ => none

def counted? : Deed → Option UInt16
  | .counted status => some status
  | _ => none

def outcomes? : Deed → Option (List RequestOutcome)
  | .tookOutcomes requests => some requests
  | _ => none

def upload? : Deed → Option StatsUpload
  | .tookCounts upload => some upload
  | _ => none

def post? : Deed → Option Post
  | .sent post => some post
  | _ => none

def task? : Deed → Option Task
  | .launched task => some task
  | _ => none

end Deed

/-- How far something in progress has come: what it does next, and with what. -/
inductive Activity where
  | counting (r : Served)
  | recording (r : Served)
  | takingOutcomes (c : Client)
  | takingCounts (c : Client) (requests : List RequestOutcome)
  | capturing (c : Client) (id : Int64) (kind : CaptureKind)
  | sending (c : Client) (cargo : Cargo)
  | awaiting (c : Client) (cargo : Cargo) (answer : Except TransportError Reply)
  | dispatching (c : Client) (agent : Agent) (commands : List Command) (launched : Nat)
  | looking (look : Look)
  | ended

namespace Activity

/-- Whether nothing is left to do. -/
def isOver : Activity → Bool
  | .dispatching _ _ [] _ | .ended => true
  | _ => false

/-- The count of tasks that a loop over commands has launched. -/
def launchCount : Activity → Nat
  | .dispatching _ _ _ launched => launched
  | _ => 0

/-- Whether commands may yet be looked for, here or in a reply to come. -/
def mayLaunch : Activity → Bool
  | .takingOutcomes _ | .takingCounts .. | .dispatching .. => true
  | .sending _ cargo | .awaiting _ cargo _ => cargo.seeksCommands
  | .counting _ | .recording _ | .capturing .. | .looking _ | .ended => false

/-- Does the next thing: the activity afterwards, what has been done, and the host. -/
def step : Activity → Host → Activity × List Deed × Host
  | .counting r, h => (.recording r, [.counted r.status], r.account.1 h)
  | .recording r, h =>
    (.ended, if r.isNotable then [.recorded r.outcome] else [], r.account.2 h)
  | .takingOutcomes c, h =>
    let (requests, h) := Client.takeOutcomes h
    (.takingCounts c requests, [.tookOutcomes requests], h)
  | .takingCounts c requests, h =>
    let (upload, h) := Client.takeCounts requests h
    if upload.isEmpty then (.ended, [.tookCounts upload], h)
    else (.sending c (.stats upload), [.tookCounts upload], h.write (Client.flushLine upload))
  | .capturing c id kind, h =>
    let (upload, h) := c.captureUpload id kind h
    (.sending c (.capture kind upload), [], h)
  | .sending c cargo, h =>
    match c.begin? cargo.body (c.config.url cargo.path) h with
    | (some answer, after) =>
      (.awaiting c cargo answer, (after.posts.drop h.posts.length).map .sent, after)
    | (none, after) => (.ended, [], after)
  | .awaiting c cargo answer, h =>
    match Client.hear (c.config.url cargo.path) cargo.seeksCommands answer h with
    | (some reply, h) => (.dispatching c reply.agent reply.commands 0, [], h)
    | (none, h) => (.ended, [], h)
  | .dispatching c agent (command :: rest) launched, h =>
    let (started, after) := c.dispatchOne agent command h
    (.dispatching c agent rest (if started then launched + 1 else launched),
      (after.tasks.drop h.tasks.length).map .launched, after)
  | .dispatching c agent [] launched, h => (.dispatching c agent [] launched, [], h)
  | .looking l, h => (.ended, [.saw (l.sight h)], h)
  | .ended, h => (.ended, [], h)

/-- A step that nobody else watches. -/
def advance (s : Activity × Host) : Activity × Host :=
  ((s.1.step s.2).1, (s.1.step s.2).2.2)

/-- Activities that come from one another by steps in a row. -/
def Reaches (s t : Activity × Host) : Prop :=
  ∃ n, (advance^[n]) s = t

theorem Reaches.refl (s : Activity × Host) : Reaches s s := ⟨0, rfl⟩

theorem Reaches.head {s t : Activity × Host} (h : Reaches (advance s) t) : Reaches s t := by
  obtain ⟨n, hn⟩ := h
  exact ⟨n + 1, hn⟩

end Activity

/-- What may be asked of the process. -/
inductive Call where
  /-- A handler has ended, and its request is to be accounted for. -/
  | account (r : Served)
  | flush (c : Client)
  | report (c : Client) (trace message : String) (span : Int64)
  | dispatch (c : Client) (reply : CollectorReply)
  | look (look : Look)

namespace Call

/-- The activity that a call starts. -/
def activity : Call → Activity
  | .account r => .counting r
  | .flush c => .takingOutcomes c
  | .report c trace message span => .sending c (.report (PanicReport.make message trace span))
  | .dispatch c reply => .dispatching c reply.agent reply.commands 0
  | .look l => .looking l

/-- What a call does to the host if nothing interrupts it. -/
def perform : Call → Host → Host
  | .account r => r.interceptor.afterRequest r.request r.span r.status r.elapsed r.isProblem
  | .flush c => fun h => (c.flush h).2
  | .report c trace message span => c.shipTrace trace message span
  | .dispatch c reply => fun h => (c.dispatch reply.agent reply.commands h).2
  | .look _ => id

end Call

/-- The activity that a background task starts. -/
def Task.activity : Task → Activity
  | .report c message trace span => .sending c (.report (PanicReport.make message trace span))
  | .capture c id kind => .capturing c id kind

/-- The command that a task answers. -/
def Task.commandId? : Task → Option Int64
  | .capture _ id _ => some id
  | .report .. => none

namespace Activity

/-! ### Steps in a row -/

/-- Commands that nothing interrupts are dispatched as by one call, which also returns the count
at which the loop ends. -/
theorem dispatching_alone (c : Client) (agent : Agent) (commands : List Command) (launched : Nat)
    (h : Host) :
    Reaches (.dispatching c agent commands launched, h)
      (.dispatching c agent [] (launched + (c.dispatch agent commands h).1),
        (c.dispatch agent commands h).2) := by
  induction commands generalizing launched h with
  | nil => exact .refl _
  | cons command rest ih =>
    have hrest := ih (if (c.dispatchOne agent command h).1 then launched + 1 else launched)
      (c.dispatchOne agent command h).2
    apply Reaches.head
    simp only [Client.dispatch]
    cases hstarted : (c.dispatchOne agent command h).1 with
    | true => simpa only [advance, step, hstarted, if_true, Nat.add_assoc] using hrest
    | false =>
      simpa only [advance, step, hstarted, Bool.false_eq_true, if_false, Nat.zero_add] using hrest

/-- A cargo that nothing interrupts is posted as by one call. -/
theorem sending_alone (c : Client) (cargo : Cargo) (h : Host) :
    ∃ a : Activity, a.isOver = true ∧ Reaches (.sending c cargo, h)
      (a, c.post cargo.body (c.config.url cargo.path) cargo.seeksCommands h) := by
  rcases hbegin : c.begin? cargo.body (c.config.url cargo.path) h with ⟨answer | answer, after⟩
  · refine ⟨.ended, rfl, .head ?_⟩
    simp only [advance, step, hbegin, Client.post]
    exact .refl _
  · have hpost : c.post cargo.body (c.config.url cargo.path) cargo.seeksCommands h =
        c.conclude (c.config.url cargo.path) cargo.seeksCommands answer after := by
      simp only [Client.post, hbegin]
    rw [hpost, Client.conclude_eq]
    rcases hhear : Client.hear (c.config.url cargo.path) cargo.seeksCommands answer after
      with ⟨reply | reply, noted⟩
    · refine ⟨.ended, rfl, .head (.head ?_)⟩
      simp only [advance, step, hbegin, hhear]
      exact .refl _
    · refine ⟨.dispatching c reply.agent [] (0 + (c.dispatch reply.agent reply.commands noted).1),
        rfl, .head (.head ?_)⟩
      simp only [advance, step, hbegin, hhear]
      exact dispatching_alone c reply.agent reply.commands 0 noted

end Activity

/-- A call that nothing interrupts does what one call of its function does. -/
theorem Call.perform_alone (call : Call) (h : Host) :
    ∃ a : Activity, a.isOver = true ∧ Activity.Reaches (call.activity, h) (a, call.perform h) := by
  cases call with
  | account r => exact ⟨.ended, rfl, 2, rfl⟩
  | flush c =>
    cases hempty : (Client.drainStats h).1.isEmpty with
    | true =>
      refine ⟨.ended, rfl, .head (.head ?_)⟩
      have hflush : (Call.flush c).perform h = (Client.drainStats h).2 := by
        simp only [Call.perform, Client.flush, hempty, if_true]
      rw [hflush]
      simp only [Client.drainStats] at hempty
      simp only [Activity.advance, Activity.step, Call.activity, hempty, if_true, Client.drainStats]
      exact .refl _
    | false =>
      obtain ⟨a, hover, hsend⟩ := Activity.sending_alone c (.stats (Client.drainStats h).1)
        ((Client.drainStats h).2.write (Client.flushLine (Client.drainStats h).1))
      refine ⟨a, hover, .head (.head ?_)⟩
      have hflush : (Call.flush c).perform h =
          c.upload (Client.drainStats h).1 (Client.drainStats h).2 := by
        simp only [Call.perform, Client.flush, hempty, Bool.false_eq_true, if_false]
      rw [hflush]
      simp only [Client.drainStats] at hempty hsend ⊢
      simp only [Activity.advance, Activity.step, Call.activity, hempty, Bool.false_eq_true,
        if_false]
      exact hsend
  | report c trace message span =>
    simp only [Call.perform, Client.shipTrace_eq_post]
    exact Activity.sending_alone c (.report (PanicReport.make message trace span)) h
  | dispatch c reply =>
    exact ⟨.dispatching c reply.agent [] (0 + (c.dispatch reply.agent reply.commands h).1), rfl,
      Activity.dispatching_alone c reply.agent reply.commands 0 h⟩
  | look l => exact ⟨.ended, rfl, 1, rfl⟩

/-- A background task that nothing interrupts does what one run of it does. -/
theorem Task.run_alone (t : Task) (h : Host) :
    ∃ a : Activity, a.isOver = true ∧ Activity.Reaches (t.activity, h) (a, t.run h) := by
  cases t with
  | report c message trace span =>
    simp only [Task.run, Client.shipTrace_eq_post]
    exact Activity.sending_alone c (.report (PanicReport.make message trace span)) h
  | capture c id kind =>
    obtain ⟨a, hover, hsend⟩ := Activity.sending_alone c
      (.capture kind (c.captureUpload id kind h).1) (c.captureUpload id kind h).2
    exact ⟨a, hover, .head hsend⟩

end Telemetry
