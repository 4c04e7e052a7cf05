import Telemetry.Proofs.Traffic.Activity
import Telemetry.Request.Service

/-!
What may be asked of a process, and what remains to be done for it.

An undertaking is a call of the client, of the flusher, of the interceptor or of the service, or a
background task. It is carried out duty by duty. One step of a duty touches nothing that others
share, or it is one critical section, one call of the transport, one capture, one report handed to
the background or one look at a task that is waited for. Between two steps anything else may happen.
A step may leave further duties, which come before those that are left anyway.
-/
namespace Telemetry

/-- What a reporter does once its report is with the background. -/
inductive Patience where
  | goesOn
  | waits
  /-- It would wait, but its thread must not. -/
  | cannotWait

def Caller.patience (caller : Caller) : Patience :=
  if caller.canWait then .waits else .cannotWait

def Ending.panic? : Ending α → Option Panic
  | .returns _ => none
  | .panics p => some p

/-- What comes of an undertaking. A call of the service can only come to a response. -/
inductive Upshot (α σ : Type) where
  | finished
  | persisted (value : Option α)
  | resumed (result : Except Payload α)
  | intercepted (result : Intercepted σ)
  | answered (called : Called)

def Task.client : Task → Client
  | .report c .. | .capture c .. => c

/-- What a task reports. -/
def Task.report? : Task → Option (Client × String × Int64)
  | .report c message _ span => some (c, message, span)
  | .capture .. => none

/-- What may be asked of the process. -/
inductive Undertaking (α σ : Type) where
  | post (c : Client) (body : Bytes) (url : String) (analyse : Bool)
  | analyse (c : Client) (body : Bytes)
  | shipTrace (c : Client) (trace message : String) (span : Int64)
  | flush (c : Client)
  | report (c : Client) (payload : Payload) (span : Int64)
  | reportAndWait (c : Client) (payload : Payload) (span : Int64)
  | reportBlocking (c : Client) (caller : Caller) (payload : Payload) (span : Int64)
  | persist (c : Client) (work : Ending α)
  | persistRepanic (c : Client) (caller : Caller) (work : Ending α)
  | intercept (i : Interceptor) (handler : Handler) (w : Writer σ) (req : Http.Request) (s : σ)
  | serve (s : Service) (head : Http.Request) (body : IncomingBody)
  | task (t : Task)

/-- A part of an undertaking that is still to be done. -/
inductive Duty (α σ : Type) where
  | run (a : Activity)
  | post (c : Client) (body : Bytes) (url : String) (analyse : Bool)
  | hear (c : Client) (url : String) (analyse : Bool) (answer : Except TransportError Reply)
  | decode (c : Client) (body : Bytes)
  | read (frame : Bytes)
  | intercept (i : Interceptor) (handler : Handler) (w : Writer σ) (req : Http.Request) (s : σ)
  | serve (s : Service) (req : Http.Request)
  | raise (p : Panic)
  | report (c : Client) (payload : Payload) (span : Int64) (patience : Patience)
  /-- Waits for a task, `none` if it was lost. -/
  | await (task : Option Nat)
  | log (lines : List LogLine)
  | conclude (upshot : Upshot α σ)

/-- What can be told of a step. -/
inductive Act (α σ : Type) where
  | did (deed : Deed)
  | captured (id : Int64) (kind : CaptureKind)
  | handled (span : SpanContext)
  | reported (c : Client) (payload : Payload) (span : Int64)
  | concluded (upshot : Upshot α σ)

namespace Act

variable {α σ : Type}

def deed? : Act α σ → Option Deed
  | .did deed => some deed
  | _ => none

def counted? (a : Act α σ) : Option UInt16 :=
  a.deed?.bind Deed.counted?

def recorded? (a : Act α σ) : Option RequestOutcome :=
  a.deed?.bind Deed.recorded?

def sent? (a : Act α σ) : Option Post :=
  a.deed?.bind Deed.post?

def launched? (a : Act α σ) : Option Task :=
  a.deed?.bind Deed.task?

def launchedId? (a : Act α σ) : Option Int64 :=
  a.launched?.bind Task.commandId?

def captured? : Act α σ → Option Int64
  | .captured id _ => some id
  | _ => none

def reported? : Act α σ → Option (Client × Payload × Int64)
  | .reported c payload span => some (c, payload, span)
  | _ => none

/-- The report that is left to a background which is there. -/
def handedOver? : Act α σ → Option (Client × String × Int64)
  | .reported c payload span =>
    match c.background with
    | .running => some (c, payload.reportMessage, span)
    | .gone => none
  | _ => none

def concluded? : Act α σ → Option (Upshot α σ)
  | .concluded upshot => some upshot
  | _ => none

end Act

theorem Act.filterMap_handedOver {α σ : Type} {acts : List (Act α σ)}
    (hrunning : ∀ r ∈ acts.filterMap Act.reported?, r.1.background = .running) :
    acts.filterMap Act.handedOver? =
      (acts.filterMap Act.reported?).map fun r => (r.1, r.2.1.reportMessage, r.2.2) := by
  induction acts with
  | nil => rfl
  | cons act rest ih =>
    cases act with
    | reported c payload span =>
      have hreported : (Act.reported c payload span : Act α σ).reported? =
          some (c, payload, span) := rfl
      rw [List.filterMap_cons_some hreported, List.forall_mem_cons] at hrunning
      obtain ⟨hnow, hlater⟩ := hrunning
      change c.background = .running at hnow
      have hover : (Act.reported c payload span : Act α σ).handedOver? =
          some (c, payload.reportMessage, span) := by
        simp only [Act.handedOver?, hnow]
      rw [List.filterMap_cons_some hover, List.filterMap_cons_some hreported, ih hlater,
        List.map_cons]
    | _ => exact ih hrunning

/-- A capture that is about to be taken. -/
def Activity.captures {α σ : Type} : Activity → List (Act α σ)
  | .capturing _ id kind => [.captured id kind]
  | _ => []

/-- Captures are no deeds. -/
theorem Activity.filterMap_deed (a : Activity) (deeds : List Deed) {α σ : Type}
    (f : Deed → Option β) :
    (a.captures ++ deeds.map Act.did : List (Act α σ)).filterMap (fun act => act.deed?.bind f) =
      deeds.filterMap f := by
  have hcaptures : (a.captures : List (Act α σ)).filterMap (fun act => act.deed?.bind f) = [] := by
    cases a <;> rfl
  rw [List.filterMap_append, hcaptures, List.filterMap_map, List.nil_append]
  rfl

/-- A step of an activity is nothing but captures and deeds. -/
theorem Activity.filterMap_other (a : Activity) (deeds : List Deed) {α σ : Type}
    {f : Act α σ → Option β} (hcaptured : ∀ id kind, f (.captured id kind) = none)
    (hdid : ∀ deed, f (.did deed) = none) :
    (a.captures ++ deeds.map Act.did).filterMap f = [] := by
  have hcaptures : (a.captures : List (Act α σ)).filterMap f = [] := by
    cases a <;> first | rfl | exact List.filterMap_cons_none (hcaptured _ _)
  rw [List.filterMap_append, hcaptures, List.filterMap_map, List.nil_append,
    List.filterMap_eq_nil_iff]
  intro deed _
  exact hdid deed

def Patience.duties {α σ : Type} (task : Option Nat) : Patience → List (Duty α σ)
  | .goesOn => []
  | .waits => [.await task]
  | .cannotWait => [.log [Client.cannotWait]]

/-- The tasks that a report comes to: one if the background is there. -/
def Client.reportTasks (c : Client) (message trace : String) (span : Int64) : List Task :=
  match c.background with
  | .running => [.report c message trace span]
  | .gone => []

/-- The task to wait for once a report is left to the background, where `fresh` is the next one. -/
def Client.ticket (c : Client) (fresh : Nat) : Option Nat :=
  match c.background with
  | .running => some fresh
  | .gone => none

/-- What work on a response leaves behind. -/
def Handling.duties {α σ τ : Type} (handling : Handling) (w : Writer τ) (s : τ) :
    List (Duty α σ) :=
  .log (w.performAll handling.ops s).lines ::
    match handling.ending with
    | .returns () => []
    | .panics p => [.raise p]

namespace Interceptor

variable {α σ τ : Type} (i : Interceptor) (handler : Handler) (w : Writer τ) (req : Http.Request)
  (s : τ) (span : SpanContext)

/-- A request whose handler has returned. -/
def returned : Served where
  interceptor := i
  request := req
  span := span
  status := (w.traced.performAll (handler req span).ops (.start s)).state.status
  elapsed := (handler req span).elapsed
  isProblem := false

/-- A request whose handler has panicked. -/
def recovered : Served where
  interceptor := i
  request := req
  span := span
  status := Http.Status.internalServerError.code
  elapsed := (handler req span).elapsed
  isProblem := true

/-- What remains to be done for a request when its span has been drawn. -/
def duties : List (Duty α σ) :=
  (handler req span).duties w.traced (.start s) ++
    match (handler req span).ending with
    | .returns () => [.run (.counting (i.returned handler w req s span))]
    | .panics p =>
      [.log [.warn ("Recovered panic in handler for " ++ requestLine req ++ ": " ++
          p.payload.message)],
        .report i.client p.payload span.span .goesOn,
        .run (.counting (i.recovered handler req span))] ++
      (i.responder req p.payload.message).duties w
        (w.traced.performAll (handler req span).ops (.start s)).state.inner

/-- What comes of a request with a given span. -/
def result : Intercepted τ :=
  let done := w.traced.performAll (handler req span).ops (.start s)
  match (handler req span).ending with
  | .returns () => ⟨done.results, done.state.inner, none⟩
  | .panics p =>
    let fallback := i.responder req p.payload.message
    ⟨done.results, (w.performAll fallback.ops done.state.inner).state, fallback.ending.panic?⟩

end Interceptor

namespace Service

/-- What comes of a request with a given span, on a writer of the service's own. -/
def result (s : Service) (req : Http.Request) (span : SpanContext) :
    Intercepted BufferedResponse :=
  s.interceptor.result s.handler BufferedResponse.writer req .empty span

/-- The answer to a request whose body has been read. -/
def reply (s : Service) (req : Http.Request) (span : SpanContext) : Called :=
  let result := s.result req span
  match result.escaped with
  | none => ⟨result.response.toResponse, result.results⟩
  | some _ => ⟨.plain .internalServerError "Internal server error", result.results⟩

/-- What remains to be done for a request when its span has been drawn. -/
def duties {α σ : Type} (s : Service) (req : Http.Request) (worker : String)
    (span : SpanContext) : List (Duty α σ) :=
  s.interceptor.duties s.handler BufferedResponse.writer req .empty span ++
    (match (s.result req span).escaped with
      | none => []
      | some p => [.log [workerFailed worker p.payload]]) ++
    [.conclude (.answered (s.reply req span))]

/-- The answer to a call whose body cannot be read. -/
def refusal (e : IoError) : Called :=
  ⟨.plain .badRequest ("Failed to read request body: " ++ e.message), []⟩

end Service

namespace Duty

variable {α σ : Type}

/-- An activity that goes on unless it is over. -/
def goingOn (next : Activity) : List (Duty α σ) :=
  if next.isOver then [] else [.run next]

theorem mem_goingOn {d : Duty α σ} {next : Activity} :
    d ∈ goingOn next ↔ next.isOver = false ∧ d = .run next := by
  unfold goingOn
  cases next.isOver <;> simp

/-- Does one step: the duties that it leaves, what can be told of it, and the host. `ended` says
which tasks have ended, and `fresh` is the number of the next one. -/
def step (ended : Nat → Bool) (fresh : Nat) :
    Duty α σ → Host → List (Duty α σ) × List (Act α σ) × Host
  | .run a, h =>
    let (next, deeds, after) := a.step h
    (goingOn next, a.captures ++ deeds.map .did, after)
  | .post c body url analyse, h =>
    match c.begin? body url h with
    | (some answer, after) =>
      ([.hear c url analyse answer],
        (after.posts.drop h.posts.length).map fun post => .did (.sent post), after)
    | (none, after) => ([], [], after)
  | .hear c url analyse answer, h =>
    match Client.hear url analyse answer h with
    | (some reply, h) => ([.run (.dispatching c reply.agent reply.commands 0)], [], h)
    | (none, h) => ([], [], h)
  | .decode c body, h =>
    match CollectorReply.decode body with
    | .ok reply => ([.run (.dispatching c reply.agent reply.commands 0)], [], h)
    | .error e => ([], [], h.write (.error ("Failed to decode collector response: " ++ e.message)))
  | .read _, h => ([], [], h)
  | .intercept i handler w req s, h =>
    let span := i.spans.draw h.spansDrawn req.headers
    (i.duties handler w req s span ++ [.conclude (.intercepted (i.result handler w req s span))],
      [.handled span], { h with spansDrawn := h.spansDrawn + 1 })
  | .serve s req, h =>
    -- the worker is a thread of its own, on which nothing has panicked before
    let span := s.interceptor.spans.draw h.spansDrawn req.headers
    (s.duties req (s.worker h.spansDrawn) span, [.handled span],
      { h with spansDrawn := h.spansDrawn + 1, slot := none })
  | .raise p, h => ([], [], h.raise p.payload p.backtrace)
  | .report c payload span patience, h =>
    (patience.duties (c.ticket fresh), [.reported c payload span], c.report payload span h)
  | .await (some task), h => (if ended task then [] else [.await (some task)], [], h)
  | .await none, h => ([], [], h.write Client.lostReport)
  | .log lines, h => ([], [], h.writeAll lines)
  | .conclude upshot, h => ([], [.concluded upshot], h)

theorem step_run (ended : Nat → Bool) (fresh : Nat) (a : Activity) (h : Host) :
    (run a : Duty α σ).step ended fresh h =
      (goingOn (a.step h).1, a.captures ++ (a.step h).2.1.map .did, (a.step h).2.2) := rfl

end Duty

/-- The duties that a handled request leaves, on behalf of a client. None of them waits for anything
or looks for commands. -/
inductive Duty.FollowUp {α σ : Type} (c : Client) : Duty α σ → Prop where
  | log (lines : List LogLine) : FollowUp c (.log lines)
  | raise (p : Panic) : FollowUp c (.raise p)
  | report (payload : Payload) (span : Int64) : FollowUp c (.report c payload span .goesOn)
  | count (r : Served) : FollowUp c (.run (.counting r))
  | conclude (upshot : Upshot α σ) : FollowUp c (.conclude upshot)

theorem Handling.followUp {α σ τ : Type} {handling : Handling} {w : Writer τ} {s : τ}
    (c : Client) : ∀ d ∈ (handling.duties w s : List (Duty α σ)), d.FollowUp c := by
  intro d hd
  unfold duties at hd
  cases hending : handling.ending with
  | returns value =>
    simp only [hending, List.mem_singleton] at hd
    rw [hd]
    exact .log _
  | panics p =>
    simp only [hending, List.mem_cons, List.not_mem_nil, or_false] at hd
    rcases hd with rfl | rfl
    · exact .log _
    · exact .raise p

theorem Interceptor.followUp {α σ τ : Type} {i : Interceptor} {handler : Handler}
    {w : Writer τ} {req : Http.Request} {s : τ} {span : SpanContext} :
    ∀ d ∈ (i.duties handler w req s span : List (Duty α σ)), d.FollowUp i.client := by
  intro d hd
  rcases List.mem_append.1 hd with hwork | hd
  · exact Handling.followUp i.client d hwork
  · cases hending : (handler req span).ending with
    | returns value =>
      simp only [hending, List.mem_singleton] at hd
      rw [hd]
      exact .count _
    | panics p =>
      simp only [hending] at hd
      rcases List.mem_append.1 hd with hd | hlast
      · simp only [List.mem_cons, List.not_mem_nil, or_false] at hd
        rcases hd with rfl | rfl | rfl
        · exact .log _
        · exact .report _ _
        · exact .count _
      · exact Handling.followUp i.client d hlast

theorem Service.followUp {α σ : Type} {s : Service} {req : Http.Request} {worker : String}
    {span : SpanContext} :
    ∀ d ∈ (s.duties req worker span : List (Duty α σ)), d.FollowUp s.interceptor.client := by
  intro d hd
  rcases List.mem_append.1 hd with hd | hlast
  · rcases List.mem_append.1 hd with hd | hline
    · exact Interceptor.followUp d hd
    · cases hescaped : (s.result req span).escaped with
      | none =>
        rw [hescaped] at hline
        cases hline
      | some p =>
        simp only [hescaped, List.mem_singleton] at hline
        rw [hline]
        exact .log _
  · rw [List.mem_singleton.1 hlast]
    exact .conclude _

namespace Undertaking

variable {α σ : Type}

/-- The duties of an undertaking, the first one first. -/
def duties : Undertaking α σ → List (Duty α σ)
  | .post c body url seeks => [.post c body url seeks, .conclude .finished]
  | .analyse c body => [.decode c body, .conclude .finished]
  | .shipTrace c trace message span =>
    [.run (.sending c (.report (PanicReport.make message trace span))), .conclude .finished]
  | .flush c => [.run (.takingOutcomes c), .conclude .finished]
  | .report c payload span => [.report c payload span .goesOn, .conclude .finished]
  | .reportAndWait c payload span => [.report c payload span .waits, .conclude .finished]
  | .reportBlocking c caller payload span =>
    [.report c payload span caller.patience, .conclude .finished]
  | .persist _ (.returns value) => [.conclude (.persisted (some value))]
  | .persist c (.panics p) =>
    [.raise p, .report c p.payload 0 .goesOn, .conclude (.persisted none)]
  | .persistRepanic _ _ (.returns value) => [.conclude (.resumed (.ok value))]
  | .persistRepanic c caller (.panics p) =>
    [.raise p, .report c p.payload 0 caller.patience, .conclude (.resumed (.error p.payload))]
  | .intercept i handler w req s => [.intercept i handler w req s]
  | .serve s head body =>
    body.frames.map .read ++
      match body.failure with
      | some e =>
        [.log [.error ("Failed to read request body: " ++ e.message)],
          .conclude (.answered (Service.refusal e))]
      | none => [.serve s { head with body := body.frames.flatten }]
  | .task t => [.run t.activity, .conclude .finished]

/-- What an undertaking comes to, and the host afterwards, if nothing interrupts it. -/
def perform : Undertaking α σ → Host → Upshot α σ × Host
  | .post c body url seeks, h => (.finished, c.post body url seeks h)
  | .analyse c body, h => (.finished, (c.analyse body h).2)
  | .shipTrace c trace message span, h => (.finished, c.shipTrace trace message span h)
  | .flush c, h => (.finished, (c.flush h).2)
  | .report c payload span, h => (.finished, c.report payload span h)
  | .reportAndWait c payload span, h => (.finished, c.reportAndWait payload span h)
  | .reportBlocking c caller payload span, h => (.finished, c.reportBlocking caller payload span h)
  | .persist c work, h => Prod.map .persisted id (c.persist work h)
  | .persistRepanic c caller work, h => Prod.map .resumed id (c.persistRepanic caller work h)
  | .intercept i handler w req s, h => Prod.map .intercepted id (i.intercept handler w req s h)
  | .serve s head body, h => Prod.map .answered id (s.call head body h)
  | .task t, h => (.finished, t.run h)

/-- The client on whose behalf something is undertaken. -/
def client : Undertaking α σ → Client
  | .post c .. | .analyse c _ | .shipTrace c .. | .flush c | .report c .. | .reportAndWait c ..
  | .reportBlocking c .. | .persist c _ | .persistRepanic c .. => c
  | .intercept i .. => i.client
  | .serve s .. => s.interceptor.client
  | .task t => t.client

/-- The duties with which an undertaking may begin. -/
inductive Opens : Undertaking α σ → Duty α σ → Prop where
  | post (c : Client) (body : Bytes) (url : String) (seeks : Bool) :
    Opens (.post c body url seeks) (.post c body url seeks)
  | decode (c : Client) (body : Bytes) : Opens (.analyse c body) (.decode c body)
  | send (c : Client) (trace message : String) (span : Int64) :
    Opens (.shipTrace c trace message span)
      (.run (.sending c (.report (PanicReport.make message trace span))))
  | take (c : Client) : Opens (.flush c) (.run (.takingOutcomes c))
  | report (u : Undertaking α σ) (payload : Payload) (span : Int64) (patience : Patience) :
    Opens u (.report u.client payload span patience)
  | intercept (i : Interceptor) (handler : Handler) (w : Writer σ) (req : Http.Request) (s : σ) :
    Opens (.intercept i handler w req s) (.intercept i handler w req s)
  | read (u : Undertaking α σ) (frame : Bytes) : Opens u (.read frame)
  | serve (s : Service) (head req : Http.Request) (body : IncomingBody) :
    Opens (.serve s head body) (.serve s req)
  | run (t : Task) : Opens (.task t) (.run t.activity)
  | raise (u : Undertaking α σ) (p : Panic) : Opens u (.raise p)
  | log (u : Undertaking α σ) (lines : List LogLine) : Opens u (.log lines)
  | conclude (u : Undertaking α σ) (upshot : Upshot α σ) : Opens u (.conclude upshot)

theorem opens {u : Undertaking α σ} : ∀ d ∈ u.duties, u.Opens d := by
  intro d hd
  cases u with
  | serve s head body =>
    rcases List.mem_append.1 hd with hread | hlast
    · obtain ⟨frame, -, rfl⟩ := List.mem_map.1 hread
      exact .read _ frame
    · cases hfailure : body.failure with
      | none =>
        simp only [hfailure, List.mem_singleton] at hlast
        rw [hlast]
        exact .serve s head _ body
      | some e =>
        simp only [hfailure, List.mem_cons, List.not_mem_nil, or_false] at hlast
        rcases hlast with rfl | rfl
        · exact .log _ _
        · exact .conclude _ _
  | persist c work | persistRepanic c caller work =>
    cases work with
    | returns value =>
      rw [List.mem_singleton.1 hd]
      exact .conclude _ _
    | panics p =>
      simp only [duties, List.mem_cons, List.not_mem_nil, or_false] at hd
      rcases hd with rfl | rfl | rfl
      · exact .raise _ p
      · exact .report _ _ _ _
      · exact .conclude _ _
  | intercept i handler w req s =>
    rw [List.mem_singleton.1 hd]
    exact .intercept i handler w req s
  | _ =>
    simp only [duties, List.mem_cons, List.not_mem_nil, or_false] at hd
    rcases hd with rfl | rfl
    · constructor
    · exact .conclude _ _

end Undertaking

end Telemetry
