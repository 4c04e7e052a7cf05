import Telemetry.Proofs.Session.Duty
import Telemetry.Proofs.Traffic.Effect

/-!
What one step of a duty can do.

`Turn` has one case for each thing that a step can come to, with the duties that it leaves, what can
be told of it, the tasks that it queues and all that it changes. Every step is one of them
(`Duty.turn`), so what all steps keep is proved by cases on `Turn`.
-/
namespace Telemetry

/-- A report empties the slot, may write to the log and is left to the background. -/
theorem Client.report_host (c : Client) (payload : Payload) (span : Int64) (h : Host) :
    ∃ trace log, c.report payload span h =
      { h with
        slot := none
        log := log
        tasks := h.tasks ++ c.reportTasks payload.reportMessage trace span } := by
  refine ⟨(h.slot.take payload.message h.site).1, (c.report payload span h).log, ?_⟩
  simp only [report, prepare, leaveReport, reportTasks, BacktraceSlot.take_snd]
  cases c.background <;> cases c.config.printPanics <;>
    simp only [Host.write, Host.spawn, if_true, Bool.false_eq_true, if_false, List.append_nil]

variable {α σ : Type}

/-- A step of a duty, with what it leaves. `ended` says which tasks have ended, and `fresh` is the
number of the next one. -/
inductive Turn (ended : Nat → Bool) (fresh : Nat) (h : Host) :
    Duty α σ → List (Duty α σ) → List (Act α σ) → List Task → Host → Prop where
  | runs (a next : Activity) (deeds : List Deed) (after : Host) (hs : Effect h a next deeds after) :
    Turn ended fresh h (.run a) (Duty.goingOn next) (a.captures ++ deeds.map .did)
      (deeds.filterMap Deed.task?) after
  | posts (c : Client) (body : Bytes) (url : String) (seeks : Bool) (headers : Http.Headers)
    (hc : c.CanPost headers) :
    Turn ended fresh h (.post c body url seeks)
      [.hear c url seeks (c.collector h.posts ⟨url, headers, body⟩)]
      [.did (.sent ⟨url, headers, body⟩)] [] { h with posts := h.posts ++ [⟨url, headers, body⟩] }
  | drops (c : Client) (body : Bytes) (url : String) (seeks : Bool) (log : List LogLine)
    (hc : ∀ headers, ¬ c.CanPost headers) :
    Turn ended fresh h (.post c body url seeks) [] [] [] { h with log := log }
  | closes (c : Client) (url : String) (seeks : Bool) (answer : Except TransportError Reply)
    (log : List LogLine) :
    Turn ended fresh h (.hear c url seeks answer) [] [] [] { h with log := log }
  | hears (c : Client) (url : String) (reply : Reply) (decoded : CollectorReply)
    (log : List LogLine) (hdecode : CollectorReply.decode reply.body = .ok decoded) :
    Turn ended fresh h (.hear c url true (.ok reply))
      [.run (.dispatching c decoded.agent decoded.commands 0)] [] [] { h with log := log }
  | decodes (c : Client) (body : Bytes) (decoded : CollectorReply)
    (hdecode : CollectorReply.decode body = .ok decoded) :
    Turn ended fresh h (.decode c body)
      [.run (.dispatching c decoded.agent decoded.commands 0)] [] [] h
  | garbles (c : Client) (body : Bytes) (e : Json.DecodeError) (log : List LogLine)
    (hdecode : CollectorReply.decode body = .error e) :
    Turn ended fresh h (.decode c body) [] [] [] { h with log := log }
  | reads (frame : Bytes) : Turn ended fresh h (.read frame) [] [] [] h
  | intercepts (i : Interceptor) (handler : Handler) (w : Writer σ) (req : Http.Request) (s : σ)
    (span : SpanContext) (hspan : span = i.spans.draw h.spansDrawn req.headers) :
    Turn ended fresh h (.intercept i handler w req s)
      (i.duties handler w req s span ++ [.conclude (.intercepted (i.result handler w req s span))])
      [.handled span] [] { h with spansDrawn := h.spansDrawn + 1 }
  | serves (s : Service) (req : Http.Request) (span : SpanContext)
    (hspan : span = s.interceptor.spans.draw h.spansDrawn req.headers) :
    Turn ended fresh h (.serve s req) (s.duties req (s.worker h.spansDrawn) span)
      [.handled span] [] { h with spansDrawn := h.spansDrawn + 1, slot := none }
  | raises (p : Panic) (slot : BacktraceSlot String) :
    Turn ended fresh h (.raise p) [] [] [] { h with slot := slot }
  | reports (c : Client) (payload : Payload) (span : Int64) (patience : Patience) (trace : String)
    (log : List LogLine) :
    Turn ended fresh h (.report c payload span patience) (patience.duties (c.ticket fresh))
      [.reported c payload span] (c.reportTasks payload.reportMessage trace span)
      { h with
        slot := none
        log := log
        tasks := h.tasks ++ c.reportTasks payload.reportMessage trace span }
  | waits (task : Nat) (hover : ended task = false) :
    Turn ended fresh h (.await (some task)) [.await (some task)] [] [] h
  | arrives (task : Nat) (hover : ended task = true) :
    Turn ended fresh h (.await (some task)) [] [] [] h
  | loses (log : List LogLine) :
    Turn ended fresh h (.await none) [] [] [] { h with log := log }
  | logs (lines : List LogLine) (log : List LogLine) :
    Turn ended fresh h (.log lines) [] [] [] { h with log := log }
  | concludes (upshot : Upshot α σ) :
    Turn ended fresh h (.conclude upshot) [] [.concluded upshot] [] h

namespace Duty

variable {ended : Nat → Bool} {fresh : Nat}

theorem turn_run (a : Activity) (h : Host) :
    Turn ended fresh h (.run a : Duty α σ) ((run a).step ended fresh h).1
      ((run a).step ended fresh h).2.1
      (((run a : Duty α σ).step ended fresh h).2.2.tasks.drop h.tasks.length)
      ((run a : Duty α σ).step ended fresh h).2.2 := by
  have heffect := a.effect h
  simp only [step, heffect.grownBy.tasks, List.drop_left]
  exact .runs a _ _ _ heffect

theorem turn_post (c : Client) (body : Bytes) (url : String) (seeks : Bool) (h : Host) :
    Turn ended fresh h (.post c body url seeks : Duty α σ)
      ((post c body url seeks).step ended fresh h).1
      ((post c body url seeks).step ended fresh h).2.1
      (((post c body url seeks : Duty α σ).step ended fresh h).2.2.tasks.drop h.tasks.length)
      ((post c body url seeks : Duty α σ).step ended fresh h).2.2 := by
  rcases c.begin?_cases body url h with ⟨headers, hc⟩ | ⟨hc, log, hdrop⟩
  · simp only [step, Client.begin?_of_canPost hc, List.drop_left, List.drop_length, List.map_cons,
      List.map_nil]
    exact .posts c body url seeks headers hc
  · simp only [step, hdrop, List.drop_length]
    exact .drops c body url seeks log hc

theorem turn_hear (c : Client) (url : String) (seeks : Bool)
    (answer : Except TransportError Reply) (h : Host) :
    Turn ended fresh h (.hear c url seeks answer : Duty α σ)
      ((hear c url seeks answer).step ended fresh h).1
      ((hear c url seeks answer).step ended fresh h).2.1
      (((hear c url seeks answer : Duty α σ).step ended fresh h).2.2.tasks.drop h.tasks.length)
      ((hear c url seeks answer : Duty α σ).step ended fresh h).2.2 := by
  obtain ⟨log, hhost⟩ := Client.hear_host url seeks answer h
  rcases hhear : Client.hear url seeks answer h with ⟨decoded | decoded, after⟩ <;>
    rw [hhear] at hhost <;> change after = _ at hhost <;> subst hhost
  · simp only [step, hhear, List.drop_length]
    exact .closes c url seeks answer log
  · obtain ⟨rfl, reply, rfl, hdecode⟩ := Client.hear_some (congrArg Prod.fst hhear)
    simp only [step, hhear, List.drop_length]
    exact .hears c url reply decoded log hdecode

theorem turn_decode (c : Client) (body : Bytes) (h : Host) :
    Turn ended fresh h (.decode c body : Duty α σ) ((decode c body).step ended fresh h).1
      ((decode c body).step ended fresh h).2.1
      (((decode c body : Duty α σ).step ended fresh h).2.2.tasks.drop h.tasks.length)
      ((decode c body : Duty α σ).step ended fresh h).2.2 := by
  cases hdecode : CollectorReply.decode body with
  | error e =>
    simp only [step, hdecode, Host.write, List.drop_length]
    exact .garbles c body e _ hdecode
  | ok decoded =>
    simp only [step, hdecode, List.drop_length]
    exact .decodes c body decoded hdecode

theorem turn_await (task : Option Nat) (h : Host) :
    Turn ended fresh h (.await task : Duty α σ) ((await task).step ended fresh h).1
      ((await task).step ended fresh h).2.1
      (((await task : Duty α σ).step ended fresh h).2.2.tasks.drop h.tasks.length)
      ((await task : Duty α σ).step ended fresh h).2.2 := by
  cases task with
  | none =>
    simp only [step, Host.write, List.drop_length]
    exact .loses _
  | some task =>
    cases hover : ended task with
    | false =>
      simp only [step, hover, Bool.false_eq_true, if_false, List.drop_length]
      exact .waits task hover
    | true =>
      simp only [step, hover, if_true, List.drop_length]
      exact .arrives task hover

theorem turn_report (c : Client) (payload : Payload) (span : Int64) (patience : Patience)
    (h : Host) :
    Turn ended fresh h (.report c payload span patience : Duty α σ)
      ((report c payload span patience).step ended fresh h).1
      ((report c payload span patience).step ended fresh h).2.1
      (((report c payload span patience : Duty α σ).step ended fresh h).2.2.tasks.drop
        h.tasks.length)
      ((report c payload span patience : Duty α σ).step ended fresh h).2.2 := by
  obtain ⟨trace, log, hhost⟩ := c.report_host payload span h
  simp only [step, hhost, List.drop_left]
  exact .reports c payload span patience trace log

/-- Every step is one of the turns. -/
theorem turn (d : Duty α σ) (h : Host) :
    Turn ended fresh h d (d.step ended fresh h).1 (d.step ended fresh h).2.1
      ((d.step ended fresh h).2.2.tasks.drop h.tasks.length) (d.step ended fresh h).2.2 := by
  cases d with
  | run a => exact turn_run a h
  | post c body url seeks => exact turn_post c body url seeks h
  | hear c url seeks answer => exact turn_hear c url seeks answer h
  | decode c body => exact turn_decode c body h
  | await task => exact turn_await task h
  | report c payload span patience => exact turn_report c payload span patience h
  | read frame =>
    simp only [step, List.drop_length]
    exact .reads frame
  | intercept i handler w req s =>
    simp only [step, List.drop_length]
    exact .intercepts i handler w req s _ rfl
  | serve s req =>
    simp only [step, List.drop_length]
    exact .serves s req _ rfl
  | raise p =>
    simp only [step, Host.raise, List.drop_length]
    exact .raises p _
  | log lines =>
    simp only [step, Host.writeAll, List.drop_length]
    exact .logs lines _
  | conclude upshot =>
    simp only [step, List.drop_length]
    exact .concludes upshot

end Duty

/-- The client that an activity acts for, if it acts for one. -/
def Activity.client? : Activity → Option Client
  | .takingOutcomes c | .takingCounts c _ | .capturing c .. | .sending c _ | .awaiting c ..
  | .dispatching c .. => some c
  | .counting _ | .recording _ | .looking _ | .ended => none

theorem Task.client?_activity (t : Task) : t.activity.client? = some t.client := by
  cases t <;> rfl

/-- Whoever goes on does so for the same client, and launches for it. -/
theorem Effect.client?_eq {h after : Host} {a next : Activity} {deeds : List Deed}
    (hs : Effect h a next deeds after) :
    (∀ c, next.client? = some c → a.client? = some c) ∧
      ∀ task ∈ deeds.filterMap Deed.task?, a.client? = some task.client := by
  cases hs with
  | launches c agent command rest launched kind log hkind hnew =>
    refine ⟨fun _ hc => hc, fun task htask => ?_⟩
    rw [List.mem_singleton.1 htask]
    rfl
  | captures c | posts c | hears c | passes c | takesOutcomes c | takesCounts c | halts c =>
    exact ⟨fun _ hc => hc, fun _ hnone => absurd hnone List.not_mem_nil⟩
  | _ =>
    refine ⟨fun _ hc => ?_, fun _ hnone => absurd hnone List.not_mem_nil⟩
    cases hc

namespace Duty

def client? : Duty α σ → Option Client
  | .run a => a.client?
  | .post c .. | .hear c .. | .decode c _ | .report c .. => some c
  | .intercept i .. => some i.client
  | .serve s _ => some s.interceptor.client
  | .read _ | .raise _ | .await _ | .log _ | .conclude _ => none

end Duty

theorem Duty.FollowUp.client? {c other : Client} {d : Duty α σ} (hd : d.FollowUp c)
    (hc : d.client? = some other) : other = c := by
  cases hd with
  | report payload span => exact (Option.some.inj hc).symm
  | _ => cases hc

theorem filterMap_launchedId (a : Activity) (deeds : List Deed) :
    (a.captures ++ deeds.map Act.did : List (Act α σ)).filterMap Act.launchedId? =
      (deeds.filterMap Deed.task?).filterMap Task.commandId? := by
  have hlaunched : (Act.launchedId? : Act α σ → Option Int64) =
      fun act => act.deed?.bind fun deed => deed.task?.bind Task.commandId? := by
    funext act
    cases act <;> rfl
  rw [hlaunched, a.filterMap_deed, List.filterMap_filterMap]

namespace Turn

variable {ended : Nat → Bool} {fresh : Nat} {h after : Host} {d : Duty α σ}
  {left : List (Duty α σ)} {acts : List (Act α σ)} {spawned : List Task}

/-- The transport has been handed what the step sent. -/
theorem posts_eq (hs : Turn ended fresh h d left acts spawned after) :
    after.posts = h.posts ++ acts.filterMap Act.sent? := by
  cases hs with
  | runs a next deeds after hs =>
    have hsent := a.filterMap_deed deeds (α := α) (σ := σ) Deed.post?
    exact hs.posts_eq.trans (congrArg _ hsent.symm)
  | posts c body url seeks headers hc => rfl
  | _ => exact (List.append_nil _).symm

/-- The registry has grown by the ids that the step launched. -/
theorem ids_eq (hs : Turn ended fresh h d left acts spawned after) :
    after.commands.ids = h.commands.ids ++ acts.filterMap Act.launchedId? := by
  cases hs with
  | runs a next deeds after hs =>
    rw [filterMap_launchedId]
    exact hs.grownBy.ids
  | _ => exact (List.append_nil _).symm

/-- The captures queued are those launched. -/
theorem commandIds_eq (hs : Turn ended fresh h d left acts spawned after) :
    spawned.filterMap Task.commandId? = acts.filterMap Act.launchedId? := by
  cases hs with
  | runs a next deeds after hs => rw [filterMap_launchedId]
  | reports c payload span patience trace log =>
    unfold Client.reportTasks
    cases c.background <;> rfl
  | _ => rfl

/-- The reports queued are those handed over. -/
theorem reports_eq (hs : Turn ended fresh h d left acts spawned after) :
    spawned.filterMap Task.report? = acts.filterMap Act.handedOver? := by
  cases hs with
  | runs a next deeds after hs =>
    rw [a.filterMap_other deeds (fun _ _ => rfl) fun _ => rfl, List.filterMap_eq_nil_iff]
    intro task htask
    obtain ⟨c, agent, command, rest, launched, kind, -, -, rfl⟩ := hs.of_mem_tasks htask
    rfl
  | reports c payload span patience trace log =>
    unfold Client.reportTasks
    simp only [List.filterMap_cons, Act.handedOver?]
    cases c.background <;> rfl
  | _ => rfl

/-- Whoever goes on does so for the same client, and so do the tasks that it queues. -/
theorem client?_eq (hs : Turn ended fresh h d left acts spawned after) :
    (∀ e ∈ left, ∀ c, e.client? = some c → d.client? = some c) ∧
      ∀ task ∈ spawned, d.client? = some task.client := by
  have hnone : ∀ task ∈ ([] : List Task), d.client? = some task.client :=
    fun _ hnil => absurd hnil List.not_mem_nil
  cases hs with
  | runs a next deeds after hs =>
    refine ⟨fun e he c hc => ?_, hs.client?_eq.2⟩
    obtain ⟨-, rfl⟩ := Duty.mem_goingOn.1 he
    exact hs.client?_eq.1 c hc
  | posts c body url seeks headers hc | hears c url reply decoded log hdecode
  | decodes c body decoded hdecode =>
    refine ⟨fun e he other hother => ?_, hnone⟩
    rw [List.mem_singleton.1 he] at hother
    exact hother
  | intercepts i handler w req s span hspan =>
    refine ⟨fun e he c hc => ?_, hnone⟩
    rcases List.mem_append.1 he with he | hlast
    · rw [(Interceptor.followUp e he).client? hc]
      rfl
    · rw [List.mem_singleton.1 hlast] at hc
      cases hc
  | serves s req span hspan =>
    refine ⟨fun e he c hc => ?_, hnone⟩
    rw [(Service.followUp e he).client? hc]
    rfl
  | reports c payload span patience trace log =>
    refine ⟨fun e he other hother => ?_, ?_⟩
    · cases patience with
      | goesOn => cases he
      | waits | cannotWait =>
        rw [List.mem_singleton.1 he] at hother
        cases hother
    · unfold Client.reportTasks
      cases c.background with
      | gone => exact fun _ hnil => absurd hnil List.not_mem_nil
      | running =>
        intro task htask
        rw [List.mem_singleton.1 htask]
        rfl
  | waits task hover => exact ⟨fun e he c hc => by rwa [List.mem_singleton.1 he] at hc, hnone⟩
  | _ => exact ⟨fun _ hnil => absurd hnil List.not_mem_nil, hnone⟩

end Turn

/-- An undertaking has its duties on behalf of its client. -/
theorem Undertaking.client?_of_mem {u : Undertaking α σ} :
    ∀ d ∈ u.duties, ∀ c, d.client? = some c → c = u.client := by
  intro d hd c hc
  cases opens d hd with
  | run t => exact (Option.some.inj (t.client?_activity.symm.trans hc)).symm
  | read | raise | log | conclude => cases hc
  | _ => exact (Option.some.inj hc).symm

end Telemetry
