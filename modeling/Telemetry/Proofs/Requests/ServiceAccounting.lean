import Telemetry.Proofs.Session.Ending
import Telemetry.Proofs.Session.Prospect
import Telemetry.Proofs.Stats.Total

/-!
The account of a service.

A call of a service leaves by one of four exits: its body cannot be read, its handler returns, its
handler panics, or the responder panics as well. `Service.Exit` says for each what has been told of
the call by then. Counting, recording and reporting come before the responder, so the last two
differ in the answer only. As long as nobody flushes, the statistics are what was counted and
recorded (`Turn.stats_eq`), so the accounts of the calls add up to those of the host.
-/
namespace Telemetry

variable {α σ : Type}

/-- A response that is nothing but a status and bytes. -/
structure Http.Response.IsPlain (response : Http.Response) (code : UInt16) (bytes : Bytes) :
    Prop where
  status : response.status.code = code
  headers : response.headers = []
  body : response.body = bytes

theorem Http.Response.isPlain_plain (status : Http.Status) (text : String) :
    (plain status text).IsPlain status.code (Text.Utf8.ofString text) :=
  ⟨rfl, rfl, rfl⟩

/-- The exits of a call, with all that has been told of it. Its span is one that the source of spans
has drawn for its request. -/
inductive Service.Exit (s : Service) (head : Http.Request) (body : IncomingBody) :
    List (Act α σ) → Prop where
  | unreadable (e : IoError) (called : Called) (hbody : body.failure = some e)
    (hplain : called.response.IsPlain 400
      (Text.Utf8.ofString ("Failed to read request body: " ++ e.message)))
    (hresults : called.results = []) :
    Exit s head body [.concluded (.answered called)]
  | returns (n : Nat) (req : Http.Request) (span : SpanContext) (status : UInt16)
    (hbody : body.failure = none) (hreq : req = { head with body := body.frames.flatten })
    (hspan : span = s.interceptor.spans.draw n req.headers)
    (hstatus : status = (BufferedResponse.writer.traced.performAll (s.handler req span).ops
      (.start .empty)).state.status)
    (hending : (s.handler req span).ending = .returns ()) :
    Exit s head body ([.handled span, .did (.counted status)] ++
      (if s.interceptor.isNotable (s.handler req span).elapsed false then
        [.did (.recorded (Interceptor.outcome req span status (s.handler req span).elapsed false))]
        else []) ++
      [.concluded (.answered
        ⟨(s.result req span).response.toResponse, (s.result req span).results⟩)])
  | recovers (n : Nat) (req : Http.Request) (span : SpanContext) (p : Panic)
    (hbody : body.failure = none) (hreq : req = { head with body := body.frames.flatten })
    (hspan : span = s.interceptor.spans.draw n req.headers)
    (hending : (s.handler req span).ending = .panics p)
    (hfallback : (s.interceptor.responder req p.payload.message).ending = .returns ()) :
    Exit s head body [.handled span, .reported s.interceptor.client p.payload span.span,
      .did (.counted 500),
      .did (.recorded (Interceptor.outcome req span 500 (s.handler req span).elapsed true)),
      .concluded (.answered
        ⟨(s.result req span).response.toResponse, (s.result req span).results⟩)]
  | fails (n : Nat) (req : Http.Request) (span : SpanContext) (p q : Panic) (called : Called)
    (hbody : body.failure = none) (hreq : req = { head with body := body.frames.flatten })
    (hspan : span = s.interceptor.spans.draw n req.headers)
    (hending : (s.handler req span).ending = .panics p)
    (hfallback : (s.interceptor.responder req p.payload.message).ending = .panics q)
    (hplain : called.response.IsPlain 500
      ("Internal server error".toList.map fun c => UInt8.ofNat c.toNat))
    (hresults : called.results = (s.result req span).results) :
    Exit s head body [.handled span, .reported s.interceptor.client p.payload span.span,
      .did (.counted 500),
      .did (.recorded (Interceptor.outcome req span 500 (s.handler req span).elapsed true)),
      .concluded (.answered called)]

namespace Service

variable {s : Service} {head : Http.Request} {body : IncomingBody}

theorem exit_of_read {req : Http.Request} {told : List (Act α σ)} (hbody : body.failure = none)
    (hreq : req = { head with body := body.frames.flatten })
    (htold : (Duty.serve s req).May told) : s.Exit head body told := by
  cases htold with
  | settled hd => cases hd
  | undecided hopen => cases hopen
  | serves _ _ n span hspan =>
    rw [acts_duties]
    cases hending : (s.handler req span).ending with
    | returns value =>
      have hescaped : (s.result req span).escaped = none := by
        simp only [result, Interceptor.result, hending]
      rw [Interceptor.acts_of_returns hending, reply, hescaped]
      exact .returns n req span _ hbody hreq hspan rfl hending
    | panics p =>
      have hescaped : (s.result req span).escaped =
          (s.interceptor.responder req p.payload.message).ending.panic? := by
        simp only [result, Interceptor.result, hending]
      rw [Interceptor.acts_of_panics hending, reply, hescaped]
      cases hfallback : (s.interceptor.responder req p.payload.message).ending with
      | returns value => exact .recovers n req span p hbody hreq hspan hending hfallback
      | panics q =>
        have hplain : (Http.Response.plain .internalServerError "Internal server error").IsPlain 500
            ("Internal server error".toList.map fun c => UInt8.ofNat c.toNat) :=
          ⟨rfl, rfl, by decide⟩
        exact .fails n req span p q _ hbody hreq hspan hending hfallback hplain rfl

/-- Every call comes to one of the exits. -/
theorem exit_of_prospect {told : List (Act α σ)}
    (htold : Prospect (Undertaking.serve s head body).duties told) : s.Exit head body told := by
  obtain ⟨before, later, rfl, hread, hlast⟩ := Prospect.exists_of_append htold
  have hquiet : before = [] := by
    rw [hread.eq_of_isSettled, List.flatMap_eq_nil_iff]
    · intro d hd
      obtain ⟨frame, -, rfl⟩ := List.mem_map.1 hd
      rfl
    · intro d hd
      obtain ⟨frame, -, rfl⟩ := List.mem_map.1 hd
      rfl
  rw [hquiet, List.nil_append]
  cases hbody : body.failure with
  | none =>
    rw [hbody] at hlast
    exact exit_of_read hbody rfl hlast.of_singleton
  | some e =>
    simp only [hbody] at hlast
    rw [hlast.eq_of_isSettled]
    · exact .unreadable e _ hbody (Http.Response.isPlain_plain .badRequest _) rfl
    · intro d hd
      simp only [List.mem_cons, List.not_mem_nil, or_false] at hd
      rcases hd with rfl | rfl <;> rfl

namespace Exit

variable {told : List (Act α σ)}

/-- A call is counted once if its body was read. -/
theorem length_counted (h : s.Exit head body told) :
    (told.filterMap Act.counted?).length = if body.failure.isNone then 1 else 0 := by
  cases h with
  | unreadable e called hbody =>
    rw [hbody]
    rfl
  | returns n req span status hbody =>
    rw [hbody]
    cases s.interceptor.isNotable (s.handler req span).elapsed false <;> rfl
  | recovers n req span p hbody | fails n req span p q called hbody =>
    rw [hbody]
    rfl

/-- There are as many outcomes with a problem as reports. -/
theorem countP_recorded (h : s.Exit head body told) :
    (told.filterMap Act.recorded?).countP (·.isProblem) =
      (told.filterMap Act.reported?).length := by
  cases h with
  | returns n req span status =>
    cases s.interceptor.isNotable (s.handler req span).elapsed false <;> rfl
  | _ => rfl

theorem client_of_reported (h : s.Exit head body told) :
    ∀ r ∈ told.filterMap Act.reported?, r.1 = s.interceptor.client := by
  intro r hr
  cases h with
  | unreadable => cases hr
  | returns n req span status =>
    cases hnotable : s.interceptor.isNotable (s.handler req span).elapsed false <;>
      rw [hnotable] at hr <;> cases hr
  | recovers | fails =>
    rw [List.mem_singleton.1 hr]

end Exit

end Service

/-! ### Statistics that nobody flushes -/

/-- Whether a duty takes anything out of the statistics. -/
def Duty.isFlush : Duty α σ → Bool
  | .run (.takingOutcomes _) | .run (.takingCounts ..) => true
  | _ => false

theorem Task.isFlush (t : Task) :
    ∀ d ∈ (Undertaking.task t : Undertaking α σ).duties, d.isFlush = false := by
  intro d hd
  cases Undertaking.opens d hd with
  | run => cases t <;> rfl
  | _ => rfl

theorem Duty.FollowUp.isFlush {c : Client} {d : Duty α σ} (hd : d.FollowUp c) :
    d.isFlush = false := by
  cases hd <;> rfl

theorem Effect.isFlush {h after : Host} {a next : Activity} {deeds : List Deed}
    (hs : Effect h a next deeds after) (ha : (Duty.run a : Duty α σ).isFlush = false) :
    (Duty.run next : Duty α σ).isFlush = false := by
  cases hs with
  | takesOutcomes | takesNothing | takesCounts => cases ha
  | _ => rfl

/-- Without a flush, the statistics gain what is counted and recorded. -/
theorem Effect.stats_eq {h after : Host} {a next : Activity} {deeds : List Deed}
    (hs : Effect h a next deeds after) (ha : (Duty.run a : Duty α σ).isFlush = false) :
    after.statusCodes =
        (deeds.filterMap Deed.counted?).foldl (fun c status => c.inc status) h.statusCodes ∧
      after.outcomes.toList = h.outcomes.toList ++ deeds.filterMap Deed.recorded? := by
  cases hs with
  | takesOutcomes | takesNothing | takesCounts => cases ha
  | counts => exact ⟨rfl, (List.append_nil _).symm⟩
  | records => exact ⟨rfl, rfl⟩
  | _ => exact ⟨rfl, (List.append_nil _).symm⟩

namespace Turn

variable {ended : Nat → Bool} {fresh : Nat} {h after : Host} {d : Duty α σ}
  {left : List (Duty α σ)} {acts : List (Act α σ)} {spawned : List Task}

theorem isFlush (hs : Turn ended fresh h d left acts spawned after) (hd : d.isFlush = false) :
    ∀ e ∈ left, e.isFlush = false := by
  intro e he
  cases hs with
  | runs a next deeds after hs =>
    rw [(Duty.mem_goingOn.1 he).2]
    exact hs.isFlush hd
  | intercepts i handler w req s span hspan =>
    rcases List.mem_append.1 he with he | hlast
    · exact (Interceptor.followUp e he).isFlush
    · rw [List.mem_singleton.1 hlast]
      rfl
  | serves s req span hspan => exact (Service.followUp e he).isFlush
  | reports c payload span patience trace log =>
    cases patience with
    | goesOn => cases he
    | waits | cannotWait =>
      rw [List.mem_singleton.1 he]
      rfl
  | posts | hears | decodes | waits =>
    rw [List.mem_singleton.1 he]
    rfl
  | _ => cases he

theorem stats_eq (hs : Turn ended fresh h d left acts spawned after) (hd : d.isFlush = false) :
    after.statusCodes =
        (acts.filterMap Act.counted?).foldl (fun c status => c.inc status) h.statusCodes ∧
      after.outcomes.toList = h.outcomes.toList ++ acts.filterMap Act.recorded? := by
  cases hs with
  | runs a next deeds after hs =>
    have hcounted := a.filterMap_deed deeds (α := α) (σ := σ) Deed.counted?
    have hrecorded := a.filterMap_deed deeds (α := α) (σ := σ) Deed.recorded?
    obtain ⟨hcodes, houtcomes⟩ := hs.stats_eq hd
    exact ⟨hcodes.trans (congrArg (List.foldl _ _) hcounted.symm),
      houtcomes.trans (congrArg _ hrecorded.symm)⟩
  | _ => exact ⟨rfl, (List.append_nil _).symm⟩

end Turn

/-! ### All calls together -/

/-- A call of a service: a request whose body is still to come, on some thread. -/
structure ServiceCall where
  thread : Nat
  head : Http.Request
  body : IncomingBody

namespace Service

def undertaking (s : Service) (call : ServiceCall) : Undertaking α σ :=
  .serve s call.head call.body

/-- Calls of one service that have just been made. -/
def session (s : Service) (h : Host) (slots : Nat → BacktraceSlot String)
    (calls : List ServiceCall) : Session α σ :=
  .ofCalls h slots (calls.map fun call => (call.thread, s.undertaking call))

end Service

/-- A job that has ended: a call at one of its exits, or a task that told of nothing but a capture
and POSTs. -/
inductive Job.Exited (s : Service) (job : Job α σ) : Prop where
  | call (head : Http.Request) (body : IncomingBody) (horigin : job.origin = .serve s head body)
    (hexit : s.Exit head body job.past)
  | task (t : Task) (sent : List Post) (horigin : job.origin = .task t)
    (hpast : job.past = t.acts sent)

/-- One for a call whose body is read. -/
def Undertaking.readable : Undertaking α σ → Nat
  | .serve _ _ body => if body.failure.isNone then 1 else 0
  | _ => 0

namespace Job.Exited

variable {s : Service} {job : Job α σ}

theorem length_counted (h : job.Exited s) :
    (job.told Act.counted?).length = job.origin.readable := by
  cases h with
  | call head body horigin hexit =>
    rw [horigin]
    exact hexit.length_counted
  | task t sent horigin hpast =>
    rw [horigin, told, hpast, t.filterMap_acts sent (fun _ _ => rfl) (fun _ => rfl) rfl]
    rfl

theorem countP_recorded (h : job.Exited s) :
    (job.told Act.recorded?).countP (·.isProblem) = (job.told Act.reported?).length := by
  cases h with
  | call head body horigin hexit => exact hexit.countP_recorded
  | task t sent horigin hpast =>
    rw [told, told, hpast, t.filterMap_acts sent (fun _ _ => rfl) (fun _ => rfl) rfl,
      t.filterMap_acts sent (fun _ _ => rfl) (fun _ => rfl) rfl]
    rfl

theorem client_of_reported (h : job.Exited s) :
    ∀ r ∈ job.told Act.reported?, r.1 = s.interceptor.client := by
  intro r hr
  cases h with
  | call head body horigin hexit => exact hexit.client_of_reported r hr
  | task t sent horigin hpast =>
    rw [told, hpast, t.filterMap_acts sent (fun _ _ => rfl) (fun _ => rfl) rfl] at hr
    cases hr

end Job.Exited

/-- A service whose handler panics, and so does its responder. -/
def Service.doomed : Service where
  interceptor :=
    ⟨.unreached, 500, fun _ _ => ⟨[], .panics ⟨.literal "responder", ""⟩, ⟨0⟩⟩, .seeded 0⟩
  handler := fun _ _ => ⟨[], .panics ⟨.literal "handler", ""⟩, ⟨0⟩⟩
  worker := fun _ => "worker"

namespace Session

theorem sum_readable (s : Service) (calls : List ServiceCall) (started : List Task) :
    ((calls.map s.undertaking ++ started.map .task : List (Undertaking α σ)).map
      Undertaking.readable).sum = calls.countP (·.body.failure.isNone) := by
  have htasks :
      ((started.map .task : List (Undertaking α σ)).map Undertaking.readable).sum = 0 := by
    apply List.sum_eq_zero
    intro n hn
    rw [List.map_map] at hn
    obtain ⟨task, -, rfl⟩ := List.mem_map.1 hn
    rfl
  rw [List.map_append, List.sum_append, htasks, Nat.add_zero]
  induction calls with
  | nil => rfl
  | cons call rest ih =>
    rw [List.map_cons, List.map_cons, List.sum_cons, ih, List.countP_cons, Nat.add_comm]
    rfl

section

variable (s : Service) (h : Host) (slots : Nat → BacktraceSlot String) (calls : List ServiceCall)
  (moves : List Nat)

theorem origins_of_service :
    ∃ started : List Task,
      ((s.session h slots calls : Session α σ).run moves).jobs.map Job.origin =
        calls.map s.undertaking ++ started.map .task ∧
      ((started.filterMap Task.report? : List _) : Multiset _) =
        ((s.session h slots calls : Session α σ).run moves).told Act.handedOver? := by
  obtain ⟨started, horigins, hreports, -⟩ := exists_started_run (α := α) (σ := σ) h slots
    (calls.map fun call => (call.thread, s.undertaking call)) moves
  rw [List.map_map] at horigins
  exact ⟨started, horigins, hreports⟩

/-- Nobody flushes in a session of service calls. -/
theorem not_isFlush_of_service :
    ∀ call ∈ calls.map fun call => (call.thread, (s.undertaking call : Undertaking α σ)),
      ∀ d ∈ (Job.start call.1 call.2).todo, d.isFlush = false := by
  intro call hcall d hd
  obtain ⟨own, -, rfl⟩ := List.mem_map.1 hcall
  change d ∈ (Undertaking.serve s own.head own.body).duties at hd
  cases Undertaking.opens d hd <;> rfl

theorem kept_not_isFlush : Kept fun job : Job α σ => ∀ d ∈ job.todo, d.isFlush = false :=
  kept_duties fun _ _ _ _ _ _ _ _ hd hs => ⟨hs.isFlush hd, fun task _ => task.isFlush⟩

theorem exists_counted_run :
    ∃ counted : List UInt16,
      ((s.session h slots calls : Session α σ).run moves).host.statusCodes =
        counted.foldl (fun c status => c.inc status) h.statusCodes ∧
      (counted : Multiset UInt16) =
        ((s.session h slots calls : Session α σ).run moves).told Act.counted? := by
  refine exists_put_run Host.statusCodes (fun _ _ _ => rfl) kept_not_isFlush ?_
    (not_isFlush_of_service s calls) moves
  intro ended fresh host job d rest left acts spawned after hjob htodo hs
  have hd := hjob d (by rw [htodo]; exact List.mem_cons_self)
  exact (hs.stats_eq hd).1

theorem exists_recorded_run :
    ∃ recorded : List RequestOutcome,
      ((s.session h slots calls : Session α σ).run moves).host.outcomes.toList =
        h.outcomes.toList ++ recorded ∧
      (recorded : Multiset RequestOutcome) =
        ((s.session h slots calls : Session α σ).run moves).told Act.recorded? := by
  refine exists_gained_run (fun h => h.outcomes.toList) (fun _ _ _ => rfl) kept_not_isFlush ?_
    (not_isFlush_of_service s calls) moves
  intro ended fresh host job d rest left acts spawned after hjob htodo hs
  have hd := hjob d (by rw [htodo]; exact List.mem_cons_self)
  exact (hs.stats_eq hd).2

end

section

variable {s : Service} {h : Host} {slots : Nat → BacktraceSlot String} {calls : List ServiceCall}
  {moves : List Nat}

theorem exited_run (hover : ((s.session h slots calls : Session α σ).run moves).isOver = true) :
    ∀ job ∈ ((s.session h slots calls : Session α σ).run moves).jobs, job.Exited s := by
  intro job hjob
  have hpast := prospect_past hjob (List.isEmpty_iff.1 (List.all_eq_true.1 hover job hjob))
  obtain ⟨started, horigins, -⟩ := origins_of_service (α := α) (σ := σ) s h slots calls moves
  have horigin := List.mem_map_of_mem (f := Job.origin) hjob
  rw [horigins] at horigin
  rcases List.mem_append.1 horigin with hcall | htask
  · obtain ⟨call, -, hcall⟩ := List.mem_map.1 hcall
    rw [← hcall] at hpast
    exact .call call.head call.body hcall.symm (Service.exit_of_prospect hpast)
  · obtain ⟨t, -, htask⟩ := List.mem_map.1 htask
    rw [← htask] at hpast
    obtain ⟨sent, htold, -⟩ := hpast.of_task
    exact .task t sent htask.symm htold

theorem exit_run (hover : ((s.session h slots calls : Session α σ).run moves).isOver = true)
    {k : Nat} {call : ServiceCall} (hcall : calls[k]? = some call) :
    ∃ job, ((s.session h slots calls : Session α σ).run moves).jobs[k]? = some job ∧
      s.Exit call.head call.body job.past := by
  have hundertaking : (calls.map fun call =>
      (call.thread, (s.undertaking call : Undertaking α σ)))[k]? =
        some (call.thread, s.undertaking call) := by
    rw [List.getElem?_map, hcall]
    rfl
  obtain ⟨job, hjob, horigin⟩ := exists_job_of_call h slots moves hundertaking
  cases exited_run hover job (List.mem_of_getElem? hjob) with
  | call head body hserve hexit =>
    cases horigin.symm.trans hserve
    exact ⟨job, hjob, hexit⟩
  | task t sent htask hpast => cases horigin.symm.trans htask

theorem countP_recorded_run
    (hover : ((s.session h slots calls : Session α σ).run moves).isOver = true)
    {recorded : List RequestOutcome} (hrecorded : (recorded : Multiset RequestOutcome) =
      ((s.session h slots calls : Session α σ).run moves).told Act.recorded?) :
    recorded.countP (·.isProblem) =
      (((s.session h slots calls : Session α σ).run moves).told Act.reported?).card := by
  rw [told_eq, Multiset.coe_eq_coe] at hrecorded
  rw [hrecorded.countP_eq, List.countP_flatMap, card_told, total]
  exact congrArg List.sum
    (List.map_congr_left fun job hjob => (exited_run hover job hjob).countP_recorded)

end

/-- However calls of one service interleave, all of them end if everybody's turn comes again and
again, and each comes to one of its exits, with a response. By then the counters have grown by one
for each call whose body was read and by nothing else, the latencies by what the calls recorded, and
there are as many outcomes with a problem as reports. Each report is a background task, unless the
background is gone. What was posted meanwhile was posted by those tasks. The total must have room
for the calls. -/
theorem service_accounting (s : Service) (h : Host) (slots : Nat → BacktraceSlot String)
    (calls : List ServiceCall) :
    let first : Session α σ := s.session h slots calls
    (∀ turns, Fair turns → ∃ n, (first.after turns n).isOver = true) ∧
    ∀ moves, (first.run moves).isOver = true →
      let t := first.run moves
      (∀ (k : Nat) call, calls[k]? = some call →
        ∃ job, t.jobs[k]? = some job ∧ s.Exit call.head call.body job.past) ∧
      (∃ counted : List UInt16, (counted : Multiset UInt16) = t.told Act.counted? ∧
        counted.length = calls.countP (·.body.failure.isNone) ∧
        (∀ status, t.host.statusCodes.get status =
          h.statusCodes.get status + UInt64.ofNat (counted.count status)) ∧
        (h.statusCodes.total + counted.length < 2 ^ 64 →
          t.host.statusCodes.total = h.statusCodes.total + counted.length)) ∧
      (∃ recorded : List RequestOutcome,
        (recorded : Multiset RequestOutcome) = t.told Act.recorded? ∧
        t.host.outcomes.toList = h.outcomes.toList ++ recorded ∧
        recorded.countP (·.isProblem) = (t.told Act.reported?).card) ∧
      (∃ started : List Task,
        t.jobs.map Job.origin = calls.map s.undertaking ++ started.map .task ∧
        (s.interceptor.client.background = .running →
          ((started.filterMap Task.report? : List _) : Multiset _) =
            (t.told Act.reported?).map fun r => (r.1, r.2.1.reportMessage, r.2.2))) ∧
      ∃ sent : List Post, t.host.posts = h.posts ++ sent ∧
        (sent : Multiset Post) = t.told Act.sent? := by
  intro first
  refine ⟨fun turns hfair => ends_of_fair h slots _ hfair, fun moves hover => ?_⟩
  obtain ⟨started, horigins, hreports⟩ := origins_of_service s h slots calls moves
  refine ⟨fun k call hcall => exit_run hover hcall, ?_, ?_, ⟨started, horigins, ?_⟩, ?_⟩
  · obtain ⟨counted, hcodes, hcounted⟩ := exists_counted_run s h slots calls moves
    refine ⟨counted, hcounted, ?_, ?_, ?_⟩
    · have hlength := total_of_origins fun job hjob => (exited_run hover job hjob).length_counted
      rw [← Multiset.coe_card, hcounted, card_told, hlength, horigins, sum_readable]
    · intro status
      rw [hcodes, StatusCounter.get_foldl_inc]
    · intro hroom
      rw [hcodes, StatusCounter.total_foldl_inc hroom]
  · obtain ⟨recorded, houtcomes, hrecorded⟩ := exists_recorded_run s h slots calls moves
    exact ⟨recorded, hrecorded, houtcomes, countP_recorded_run hover hrecorded⟩
  · intro hrunning
    rw [hreports]
    refine told_handedOver fun job hjob r hr => ?_
    rw [(exited_run hover job hjob).client_of_reported r hr]
    exact hrunning
  · exact exists_sent_run h slots _ moves

/-- The body of one call cannot be read. For the other one both the handler and the responder panic,
and it is counted all the same. -/
theorem service_accounting_doomed :
    let calls : List ServiceCall := [⟨0, ⟨"POST", ⟨"/"⟩, [], []⟩, ⟨[[1]], some ⟨"other", "reset"⟩⟩⟩,
      ⟨1, ⟨"POST", ⟨"/"⟩, [], []⟩, ⟨[[1], [2]], none⟩⟩]
    let t : Session Unit Unit := (Service.doomed.session (.fresh "") (fun _ => none) calls).run
      [1, 0, 1, 1, 1, 0, 1, 1, 1, 1, 2, 1, 2, 1, 1, 2, 1, 1, 1, 0]
    t.host.statusCodes.total = 1 ∧
      (∃ job called, t.jobs[0]? = some job ∧ job.past = [.concluded (.answered called)] ∧
        called.response.status.code = 400) ∧
      ∃ job called, t.jobs[1]? = some job ∧ job.told Act.counted? = [500] ∧
        (job.told Act.recorded?).map (·.isProblem) = [true] ∧
        (job.told Act.reported?).length = 1 ∧ job.told Act.concluded? = [.answered called] ∧
        called.response.status.code = 500 ∧
        called.response.body = "Internal server error".toList.map fun c => UInt8.ofNat c.toNat := by
  intro calls t
  obtain ⟨-, hover⟩ :=
    service_accounting (α := Unit) (σ := Unit) Service.doomed (.fresh "") (fun _ => none) calls
  obtain ⟨hcalls, ⟨counted, -, hlength, -, htotal⟩, -⟩ := hover
    [1, 0, 1, 1, 1, 0, 1, 1, 1, 1, 2, 1, 2, 1, 1, 2, 1, 1, 1, 0] (by decide +kernel)
  have hone : calls.countP (·.body.failure.isNone) = 1 := rfl
  have hzero : (Host.fresh "").statusCodes.total = 0 := rfl
  rw [hlength, hone, hzero] at htotal
  refine ⟨by rw [htotal (by decide)], ?_, ?_⟩
  · obtain ⟨job, hjob, hexit⟩ := hcalls 0 _ rfl
    generalize hpast : job.past = told at hexit
    cases hexit with
    | unreadable e called hbody hplain => exact ⟨job, called, hjob, hpast, hplain.status⟩
    | returns n req span status hbody | recovers n req span p hbody
    | fails n req span p q called hbody => cases hbody
  · obtain ⟨job, hjob, hexit⟩ := hcalls 1 _ rfl
    generalize hpast : job.past = told at hexit
    cases hexit with
    | unreadable e called hbody => cases hbody
    | returns n req span status hbody hreq hspan hstatus hending => cases hending
    | recovers n req span p hbody hreq hspan hending hfallback => cases hfallback
    | fails n req span p q called hbody hreq hspan hending hfallback hplain =>
      refine ⟨job, called, hjob, ?_, ?_, ?_, ?_, hplain.status, hplain.body⟩ <;>
        rw [Job.told, hpast] <;> rfl

end Session

end Telemetry
