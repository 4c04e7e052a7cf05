import Telemetry.Client.Send

/-!
What each step of sending does to the host.

There is one statement per function, and it names everything that the function changes. What it
does not name is as before, so callers need not look into the functions again.
-/
namespace Telemetry

namespace Command

/-- The capture that a command asks for. Three types are known, and any other asks for nothing. -/
def capture? (command : Command) : Option CaptureKind :=
  match command.type with
  | "trace" => some .trace
  | "cpu-profile" => some .cpuProfile
  | "mem-profile" => some .memProfile
  | _ => none

theorem capture?_eq_some {command : Command} {kind : CaptureKind} :
    command.capture? = some kind ↔ command.kind = .known kind := by
  have hname : command.capture? = some kind ↔ command.type = kind.name := by
    unfold capture?
    split <;> cases kind <;> simp_all [CaptureKind.name]
  rw [hname, Command.kind, CommandKind.ofName_eq_known]

end Command

namespace Client

/-- A command is passed over, or it is registered and its capture is queued. Only the log knows
of a command that was passed over. -/
theorem dispatchOne_cases (c : Client) (agent : Agent) (command : Command) (h : Host) :
    (∃ kind log, command.capture? = some kind ∧ command.id ∉ h.commands.ids ∧
      c.dispatchOne agent command h =
        (true, { h with
          commands := (h.commands.tryStart command.id).2
          tasks := h.tasks ++ [.capture c command.id kind]
          log := log })) ∨
    ((∀ kind, command.capture? = some kind → command.id ∈ h.commands.ids) ∧
      ∃ log, c.dispatchOne agent command h = (false, { h with log := log })) := by
  simp only [Command.capture?_eq_some]
  cases hkind : command.kind with
  | unknown text =>
    refine Or.inr ⟨?_, (c.dispatchOne agent command h).2.log, ?_⟩
    · intro kind hk
      cases hk
    · simp only [dispatchOne, hkind, Host.write]
  | known kind =>
    have hnew := h.commands.tryStart_fst command.id
    rcases hstart : h.commands.tryStart command.id with ⟨started, commands⟩
    rw [hstart] at hnew
    cases started with
    | false =>
      refine Or.inr ⟨fun _ _ => Classical.not_not.1 fun hmem => ?_, h.log, ?_⟩
      · cases hnew.2 hmem
      · simp only [dispatchOne, hkind, hstart]
    | true =>
      refine Or.inl ⟨kind, (c.dispatchOne agent command h).2.log, rfl, hnew.1 rfl, ?_⟩
      simp only [dispatchOne, hkind, hstart, Host.write, Host.spawn]

/-- A client that can post, but whose collector is out of reach. -/
def unreached : Client :=
  ⟨.withToken "token", ⟨"agent"⟩, fun _ _ => .error (.body "unreachable"), .unsupported, .running⟩

/-- Nothing stands in the way of a POST: sending is on, and every text of the configuration can
stand in a header. -/
structure CanPost (c : Client) (headers : Http.Headers) : Prop where
  posting : c.config.noPost = false
  valid : c.headers = .ok headers

theorem exists_canPost_unreached : ∃ headers, unreached.CanPost headers :=
  ⟨_, rfl, rfl⟩

/-- A client that can post hands the POST to the transport once, and that is all it does. -/
theorem begin?_of_canPost {c : Client} {headers : Http.Headers} (hc : c.CanPost headers)
    (body : Bytes) (url : String) (h : Host) :
    c.begin? body url h =
      (some (c.collector h.posts ⟨url, headers, body⟩),
        { h with posts := h.posts ++ [⟨url, headers, body⟩] }) := by
  simp only [begin?, hc.posting, hc.valid, exchange, Bool.false_eq_true, if_false]

/-- A client can post, or it drops every POST and at most the log knows of it. -/
theorem begin?_cases (c : Client) (body : Bytes) (url : String) (h : Host) :
    (∃ headers, c.CanPost headers) ∨ (∀ headers, ¬ c.CanPost headers) ∧
      ∃ log, c.begin? body url h = (none, { h with log := log }) := by
  cases hpost : c.config.noPost with
  | true =>
    refine Or.inr ⟨?_, h.log, ?_⟩
    · intro headers hc
      cases hpost.symm.trans hc.posting
    · simp only [begin?, hpost, if_true]
  | false =>
    cases hheaders : c.headers with
    | ok headers => exact Or.inl ⟨headers, hpost, hheaders⟩
    | error e =>
      refine Or.inr ⟨?_, (c.begin? body url h).2.log, ?_⟩
      · intro headers hc
        cases hheaders.symm.trans hc.valid
      · simp only [begin?, hpost, hheaders, Bool.false_eq_true, if_false, Host.write]

/-- Where the sender looks for no commands, an answer only leaves a line in the log. -/
theorem conclude_unheeded (c : Client) (url : String) (answer : Except TransportError Reply)
    (h : Host) : ∃ log, c.conclude url false answer h = { h with log := log } := by
  cases answer with
  | error e => exact ⟨_, rfl⟩
  | ok reply => exact ⟨_, rfl⟩

/-- A client that can post, and that looks for no commands in the reply, hands over one POST.
Whatever comes back changes nothing but the log. -/
theorem post_unheeded {c : Client} {headers : Http.Headers} (hc : c.CanPost headers) (body : Bytes)
    (url : String) (h : Host) :
    ∃ log, c.post body url false h =
      { h with posts := h.posts ++ [⟨url, headers, body⟩], log := log } := by
  obtain ⟨log, hconclude⟩ := c.conclude_unheeded url (c.collector h.posts ⟨url, headers, body⟩)
    { h with posts := h.posts ++ [⟨url, headers, body⟩] }
  refine ⟨log, ?_⟩
  simp only [post, begin?_of_canPost hc]
  exact hconclude

/-- Shipping a trace is one POST. That nothing is sent is checked twice. -/
theorem shipTrace_eq_post (c : Client) (trace message : String) (span : Int64) (h : Host) :
    c.shipTrace trace message span h =
      c.post (PanicReport.make message trace span).encode (c.config.url panicsPath) false h := by
  cases hpost : c.config.noPost with
  | true => simp only [shipTrace, post, begin?, hpost, if_true]
  | false => simp only [shipTrace, hpost, Bool.false_eq_true, if_false]

/-- What the profiler is asked on account of a command: the capture, and the package after a
trace. -/
def captureProbes (kind : CaptureKind) (captured : Except CaptureError Bytes) : List Probe :=
  match kind, captured with
  | .trace, .ok _ => [.capture .trace, .package]
  | _, _ => [.capture kind]

/-- The package that goes with a capture: that of a trace, if the profiler has one. -/
def packageOf (kind : CaptureKind) (captured : Except CaptureError Bytes)
    (package : Option Bytes) : Bytes :=
  match kind, captured, package with
  | .trace, .ok _, some bytes => bytes
  | _, _, _ => []

/-- Taking a capture asks the profiler and may write to the log. -/
theorem captureUpload_eq (c : Client) (id : Int64) (kind : CaptureKind) (h : Host) :
    let captured := c.profiler.capture h.probes kind
    let package := c.profiler.package (h.probes ++ [.capture kind])
    ∃ log, c.captureUpload id kind h =
      (⟨id, captured.toOption.getD [], packageOf kind captured package, !captured.isOk⟩,
        { h with probes := h.probes ++ captureProbes kind captured, log := log }) := by
  intro captured package
  simp only [captureUpload, takeCapture]
  cases hcaptured : c.profiler.capture h.probes kind with
  | error e =>
    simp only [captured, hcaptured]
    cases kind <;> exact ⟨_, rfl⟩
  | ok out =>
    simp only [captured, hcaptured]
    refine ⟨h.log, ?_⟩
    cases kind with
    | trace =>
      simp only [takePackage, package, List.append_assoc]
      cases c.profiler.package (h.probes ++ [.capture .trace]) <;> rfl
    | cpuProfile => rfl
    | memProfile => rfl

/-- Takes note of the answer to a POST: the reply to act on, if the sender looks for one and it
can be read. -/
def hear (url : String) (analyse : Bool) (answer : Except TransportError Reply)
    (h : Host) : Option CollectorReply × Host :=
  match answer with
  | .error e => (none, h.write (.error e.message))
  | .ok reply =>
    let h := h.write (verdict reply.status url)
    if analyse then
      match CollectorReply.decode reply.body with
      | .ok decoded => (some decoded, h)
      | .error e => (none, h.write (.error ("Failed to decode collector response: " ++ e.message)))
    else (none, h)

/-- Ending a POST is taking note of the answer and then starting what the reply asks for. -/
theorem conclude_eq (c : Client) (url : String) (analyse : Bool)
    (answer : Except TransportError Reply) (h : Host) :
    c.conclude url analyse answer h =
      match hear url analyse answer h with
      | (some reply, h) => (c.dispatch reply.agent reply.commands h).2
      | (none, h) => h := by
  cases answer with
  | error e => rfl
  | ok reply =>
    cases analyse with
    | false => rfl
    | true =>
      simp only [conclude, hear, Client.analyse, if_true]
      cases CollectorReply.decode reply.body <;> rfl

/-- Taking note of an answer changes the log only. -/
theorem hear_host (url : String) (analyse : Bool)
    (answer : Except TransportError Reply) (h : Host) :
    ∃ log, (hear url analyse answer h).2 = { h with log := log } := by
  unfold hear
  cases answer with
  | error e => exact ⟨_, rfl⟩
  | ok reply =>
    cases analyse with
    | false => exact ⟨_, rfl⟩
    | true =>
      simp only [if_true]
      cases CollectorReply.decode reply.body <;> exact ⟨_, rfl⟩

/-- There is a reply to act on only if the sender looks for one, and it is what the answer
decodes to. -/
theorem hear_some {url : String} {analyse : Bool}
    {answer : Except TransportError Reply} {h : Host} {decoded : CollectorReply}
    (hsome : (hear url analyse answer h).1 = some decoded) :
    analyse = true ∧
      ∃ reply, answer = .ok reply ∧ CollectorReply.decode reply.body = .ok decoded := by
  unfold hear at hsome
  cases answer with
  | error e => cases hsome
  | ok reply =>
    cases analyse with
    | false => cases hsome
    | true =>
      simp only [if_true] at hsome
      cases hdecode : CollectorReply.decode reply.body with
      | error e => rw [hdecode] at hsome; cases hsome
      | ok other =>
        rw [hdecode] at hsome
        cases hsome
        exact ⟨rfl, reply, rfl, hdecode⟩

end Client

end Telemetry
