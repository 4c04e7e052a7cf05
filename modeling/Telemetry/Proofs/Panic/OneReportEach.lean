import Telemetry.Proofs.Panic.RoundTrip
import Telemetry.Proofs.Session.Ending
import Telemetry.Proofs.Session.Prospect

/-!
One POST for each panic.

A panic is reported on request, by a guard around a piece of work or by the interceptor of a
request, and the reporter waits for the report, or does not, or must not. `Undertaking.Comes` says
for each of these calls what it comes to and what is reported on the way. Whichever way a report
takes, it is queued as one task, and a task makes one POST, so the POSTs match the reports one to
one.
-/
namespace Telemetry

variable {α σ : Type}

/-- A POST brings a report to the collector. -/
def Post.Brings (post : Post) (r : Client × Payload × Int64) : Prop :=
  post.url = r.1.config.apiBase ++ "/panics/create" ∧
    ∃ report, PanicReport.decode post.body = .ok report ∧
      report.message = r.2.1.reportMessage ∧
      report.span = if 0 < r.2.2 then some r.2.2 else none

namespace Undertaking

/-- Whether a call is one of those that report panics. -/
def isReporter : Undertaking α σ → Bool
  | .report .. | .reportAndWait .. | .reportBlocking .. | .persist .. | .persistRepanic ..
  | .intercept .. => true
  | _ => false

/-- What is reported by a call, on whose behalf and for which span, and what the call comes to. -/
inductive Comes : Undertaking α σ → List (Client × Payload × Int64) → Upshot α σ → Prop where
  | report (c : Client) (payload : Payload) (span : Int64) :
    Comes (.report c payload span) [(c, payload, span)] .finished
  | reportAndWait (c : Client) (payload : Payload) (span : Int64) :
    Comes (.reportAndWait c payload span) [(c, payload, span)] .finished
  | reportBlocking (c : Client) (caller : Caller) (payload : Payload) (span : Int64) :
    Comes (.reportBlocking c caller payload span) [(c, payload, span)] .finished
  | persist (c : Client) (value : α) :
    Comes (.persist c (.returns value)) [] (.persisted (some value))
  | persistPanics (c : Client) (p : Panic) :
    Comes (.persist c (.panics p)) [(c, p.payload, 0)] (.persisted none)
  | persistRepanic (c : Client) (caller : Caller) (value : α) :
    Comes (.persistRepanic c caller (.returns value)) [] (.resumed (.ok value))
  | persistRepanicPanics (c : Client) (caller : Caller) (p : Panic) :
    Comes (.persistRepanic c caller (.panics p)) [(c, p.payload, 0)] (.resumed (.error p.payload))
  | intercept (i : Interceptor) (handler : Handler) (w : Writer σ) (req : Http.Request) (s : σ)
    (n : Nat) (span : SpanContext) (hspan : span = i.spans.draw n req.headers)
    (hending : (handler req span).ending = .returns ()) :
    Comes (.intercept i handler w req s) [] (.intercepted (i.result handler w req s span))
  | interceptPanics (i : Interceptor) (handler : Handler) (w : Writer σ) (req : Http.Request)
    (s : σ) (n : Nat) (span : SpanContext) (hspan : span = i.spans.draw n req.headers) (p : Panic)
    (hending : (handler req span).ending = .panics p) :
    Comes (.intercept i handler w req s) [(i.client, p.payload, span.span)]
      (.intercepted (i.result handler w req s span))

theorem Comes.client_eq {u : Undertaking α σ} {reports : List (Client × Payload × Int64)}
    {upshot : Upshot α σ} (h : u.Comes reports upshot) : ∀ r ∈ reports, r.1 = u.client := by
  intro r hr
  cases h with
  | persist | persistRepanic | intercept => cases hr
  | _ =>
    rw [List.mem_singleton.1 hr]
    rfl

/-- What is told of a call that reports panics: its reports and its upshot. It makes no POST and
launches nothing. -/
structure Tells (told : List (Act α σ)) (reports : List (Client × Payload × Int64))
    (upshot : Upshot α σ) : Prop where
  reported : told.filterMap Act.reported? = reports
  concluded : told.filterMap Act.concluded? = [upshot]
  sent : told.filterMap Act.sent? = []
  launched : told.filterMap Act.launchedId? = []

theorem comes_of_intercept {i : Interceptor} {handler : Handler} {w : Writer σ}
    {req : Http.Request} {s : σ} {told : List (Act α σ)}
    (h : (Duty.intercept i handler w req s).May told) :
    ∃ reports upshot, (intercept i handler w req s).Comes reports upshot ∧
      Tells told reports upshot := by
  cases h with
  | settled hd => cases hd
  | undecided hopen => cases hopen
  | intercepts _ _ _ _ _ n span hspan =>
    cases hending : (handler req span).ending with
    | returns value =>
      rw [Interceptor.acts_of_returns hending]
      refine ⟨_, _, .intercept i handler w req s n span hspan hending, ?_⟩
      unfold Served.acts Served.recordActs
      cases (i.returned handler w req s span).isNotable <;> exact ⟨rfl, rfl, rfl, rfl⟩
    | panics p =>
      rw [Interceptor.acts_of_panics hending]
      exact ⟨_, _, .interceptPanics i handler w req s n span hspan p hending, rfl, rfl, rfl, rfl⟩

/-- A call that reports panics comes to what it should. -/
theorem comes_of_prospect {u : Undertaking α σ} (hu : u.isReporter = true)
    {told : List (Act α σ)} (h : Prospect u.duties told) :
    ∃ reports upshot, u.Comes reports upshot ∧ Tells told reports upshot := by
  cases u with
  | intercept i handler w req s => exact comes_of_intercept h.of_singleton
  | report c payload span =>
    rw [h.eq_of_isSettled fun d hd => by cases opens d hd <;> rfl]
    exact ⟨_, _, .report c payload span, rfl, rfl, rfl, rfl⟩
  | reportAndWait c payload span =>
    rw [h.eq_of_isSettled fun d hd => by cases opens d hd <;> rfl]
    exact ⟨_, _, .reportAndWait c payload span, rfl, rfl, rfl, rfl⟩
  | reportBlocking c caller payload span =>
    rw [h.eq_of_isSettled fun d hd => by cases opens d hd <;> rfl]
    exact ⟨_, _, .reportBlocking c caller payload span, rfl, rfl, rfl, rfl⟩
  | persist c work =>
    rw [h.eq_of_isSettled fun d hd => by cases opens d hd <;> rfl]
    cases work with
    | returns value => exact ⟨_, _, .persist c value, rfl, rfl, rfl, rfl⟩
    | panics p => exact ⟨_, _, .persistPanics c p, rfl, rfl, rfl, rfl⟩
  | persistRepanic c caller work =>
    rw [h.eq_of_isSettled fun d hd => by cases opens d hd <;> rfl]
    cases work with
    | returns value => exact ⟨_, _, .persistRepanic c caller value, rfl, rfl, rfl, rfl⟩
    | panics p => exact ⟨_, _, .persistRepanicPanics c caller p, rfl, rfl, rfl, rfl⟩
  | _ => cases hu

end Undertaking

/-! ### Tasks -/

theorem Task.exists_report {t : Task} (ht : t.commandId? = none) :
    ∃ c message trace span, t = .report c message trace span := by
  cases t with
  | report c message trace span => exact ⟨c, message, trace, span, rfl⟩
  | capture => cases ht

namespace Session

/-- A POST brings what a task has to report. -/
def Delivers (post : Post) (r : Client × String × Int64) : Prop :=
  post.url = r.1.config.apiBase ++ "/panics/create" ∧
    ∃ report, PanicReport.decode post.body = .ok report ∧ report.message = r.2.1 ∧
      report.span = if 0 < r.2.2 then some r.2.2 else none

theorem delivers_post (c : Client) (message trace : String) (span : Int64)
    (headers : Http.Headers) :
    Delivers ((Cargo.report (PanicReport.make message trace span)).post c headers)
      (c, message, span) :=
  ⟨rfl, _, PanicReport.decode_encode _, rfl, rfl⟩

/-- Tasks of reports that can be posted deliver one POST each. -/
theorem rel_delivers {started : List Task} {rest : List (Job α σ)}
    (horigins : rest.map Job.origin = started.map Undertaking.task)
    (hrest : ∀ job ∈ rest, Prospect job.origin.duties job.past)
    (hreports : ∀ t ∈ started, t.commandId? = none)
    (hclients : ∀ t ∈ started, ∃ headers, t.client.CanPost headers) :
    Multiset.Rel Delivers (rest.flatMap (Job.told Act.sent?) : List Post)
      (started.filterMap Task.report? : List (Client × String × Int64)) := by
  induction started generalizing rest with
  | nil =>
    rw [List.map_nil, List.map_eq_nil_iff] at horigins
    rw [horigins]
    exact .zero
  | cons t started ih =>
    rw [List.map_cons, List.map_eq_cons_iff] at horigins
    obtain ⟨job, rest, rfl, horigin, horigins⟩ := horigins
    rw [List.forall_mem_cons] at hrest hreports hclients
    have hpast := hrest.1
    rw [horigin] at hpast
    obtain ⟨sent, hpast, hsent⟩ := hpast.of_task
    obtain ⟨c, message, trace, span, rfl⟩ := Task.exists_report hreports.1
    obtain ⟨headers, -, rfl⟩ | ⟨hnone, -⟩ := hsent c message trace span rfl
    case inr =>
      obtain ⟨headers, hc⟩ := hclients.1
      exact absurd hc (hnone headers)
    have hone : job.told Act.sent? =
        [(Cargo.report (PanicReport.make message trace span)).post c headers] := by
      rw [Job.told, hpast]
      rfl
    rw [List.flatMap_cons, hone]
    exact .cons (delivers_post c message trace span headers)
      (ih horigins hrest.2 hreports.2 hclients.2)

/-! ### Calls -/

theorem exists_ends {calls : List (Nat × Undertaking α σ)} {first : List (Job α σ)}
    (horigins : first.map Job.origin = calls.map Prod.snd)
    (hfirst : ∀ job ∈ first, ∃ reports upshot, job.origin.Comes reports upshot ∧
      Undertaking.Tells job.past reports upshot) :
    ∃ ends : List (List (Client × Payload × Int64) × Upshot α σ),
      List.Forall₂ (fun call e => call.2.Comes e.1 e.2) calls ends ∧
      List.Forall₂ (fun job e => job.told Act.concluded? = [e.2]) first ends ∧
      first.flatMap (Job.told Act.reported?) = ends.flatMap Prod.fst := by
  induction calls generalizing first with
  | nil =>
    rw [List.map_nil, List.map_eq_nil_iff] at horigins
    rw [horigins]
    exact ⟨[], .nil, .nil, rfl⟩
  | cons call calls ih =>
    rw [List.map_cons, List.map_eq_cons_iff] at horigins
    obtain ⟨job, first, rfl, horigin, horigins⟩ := horigins
    rw [List.forall_mem_cons] at hfirst
    obtain ⟨⟨reports, upshot, hcomes, htells⟩, hfirst⟩ := hfirst
    obtain ⟨ends, hends, hjobs, hreports⟩ := ih horigins hfirst
    rw [horigin] at hcomes
    refine ⟨(reports, upshot) :: ends, .cons hcomes hends, .cons htells.concluded hjobs, ?_⟩
    rw [List.flatMap_cons, List.flatMap_cons, hreports, Job.told, htells.reported]

/-- How a session of such calls ends: first the calls, each with what it comes to, then the
tasks. -/
structure Reported (calls : List (Nat × Undertaking α σ)) (started : List Task)
    (own rest jobs : List (Job α σ)) : Prop where
  jobs_eq : jobs = own ++ rest
  own_origins : own.map Job.origin = calls.map Prod.snd
  rest_origins : rest.map Job.origin = started.map Undertaking.task
  own_comes : ∀ job ∈ own, ∃ reports upshot, job.origin.Comes reports upshot ∧
    Undertaking.Tells job.past reports upshot
  rest_prospects : ∀ job ∈ rest, Prospect job.origin.duties job.past

theorem exists_reported {h : Host} {slots : Nat → BacktraceSlot String}
    {calls : List (Nat × Undertaking α σ)} {moves : List Nat} {started : List Task}
    (hcalls : ∀ call ∈ calls, call.2.isReporter = true)
    (horigins : ((ofCalls h slots calls).run moves).jobs.map Job.origin =
      calls.map Prod.snd ++ started.map Undertaking.task)
    (hover : ((ofCalls h slots calls).run moves).isOver = true) :
    ∃ own rest, Reported calls started own rest ((ofCalls h slots calls).run moves).jobs := by
  have hpast : ∀ job ∈ ((ofCalls h slots calls).run moves).jobs,
      Prospect job.origin.duties job.past :=
    fun job hjob => prospect_past hjob (List.isEmpty_iff.1 (List.all_eq_true.1 hover job hjob))
  obtain ⟨own, rest, hjobs, hown, hrest⟩ := List.map_eq_append_iff.1 horigins
  rw [hjobs] at hpast ⊢
  refine ⟨own, rest, rfl, hown, hrest, ?_, fun job hjob => hpast job (List.mem_append_right _ hjob)⟩
  intro job hjob
  have horigin := List.mem_map_of_mem (f := Job.origin) hjob
  rw [hown] at horigin
  obtain ⟨call, hcall, horigin⟩ := List.mem_map.1 horigin
  have hreporter := hcalls call hcall
  rw [horigin] at hreporter
  exact Undertaking.comes_of_prospect hreporter (hpast job (List.mem_append_left _ hjob))

namespace Reported

variable {calls : List (Nat × Undertaking α σ)} {started : List Task}
  {own rest jobs : List (Job α σ)}

/-- A task tells of captures and POSTs only. -/
theorem flatMap_rest (hr : Reported calls started own rest jobs) {f : Act α σ → Option β}
    (hcaptured : ∀ id kind, f (.captured id kind) = none)
    (hsent : ∀ post, f (.did (.sent post)) = none) (hconcluded : f (.concluded .finished) = none) :
    rest.flatMap (Job.told f) = [] := by
  rw [List.flatMap_eq_nil_iff]
  intro job hjob
  have horigin := List.mem_map_of_mem (f := Job.origin) hjob
  rw [hr.rest_origins] at horigin
  obtain ⟨t, -, horigin⟩ := List.mem_map.1 horigin
  have hpast := hr.rest_prospects job hjob
  rw [← horigin] at hpast
  obtain ⟨sent, hpast, -⟩ := hpast.of_task
  rw [Job.told, hpast, t.filterMap_acts sent hcaptured hsent hconcluded]

theorem flatMap_sent (hr : Reported calls started own rest jobs) :
    jobs.flatMap (Job.told Act.sent?) = rest.flatMap (Job.told Act.sent?) := by
  have hown : own.flatMap (Job.told Act.sent?) = [] := by
    rw [List.flatMap_eq_nil_iff]
    intro job hjob
    obtain ⟨reports, upshot, -, htells⟩ := hr.own_comes job hjob
    exact htells.sent
  rw [hr.jobs_eq, List.flatMap_append, hown, List.nil_append]

theorem flatMap_launched (hr : Reported calls started own rest jobs) :
    jobs.flatMap (Job.told Act.launchedId?) = [] := by
  have hown : own.flatMap (Job.told Act.launchedId?) = [] := by
    rw [List.flatMap_eq_nil_iff]
    intro job hjob
    obtain ⟨reports, upshot, -, htells⟩ := hr.own_comes job hjob
    exact htells.launched
  rw [hr.jobs_eq, List.flatMap_append, hown, hr.flatMap_rest (fun _ _ => rfl) (fun _ => rfl) rfl]
  rfl

/-- Whatever is reported is reported for the client of one of the calls. -/
theorem exists_call (hr : Reported calls started own rest jobs) :
    ∀ job ∈ jobs, ∀ r ∈ job.told Act.reported?, ∃ call ∈ calls, r.1 = call.2.client := by
  intro job hjob r hreport
  rw [hr.jobs_eq] at hjob
  rcases List.mem_append.1 hjob with hjob | hjob
  · obtain ⟨reports, upshot, hcomes, htells⟩ := hr.own_comes job hjob
    rw [Job.told, htells.reported] at hreport
    have horigin := List.mem_map_of_mem (f := Job.origin) hjob
    rw [hr.own_origins] at horigin
    obtain ⟨call, hcall, horigin⟩ := List.mem_map.1 horigin
    refine ⟨call, hcall, ?_⟩
    rw [horigin]
    exact hcomes.client_eq r hreport
  · have hnone := hr.flatMap_rest (f := Act.reported?) (fun _ _ => rfl) (fun _ => rfl) rfl
    have hnothing := List.flatMap_eq_nil_iff.1 hnone job hjob
    rw [hnothing] at hreport
    cases hreport

end Reported

/-- Every task is one of the reports handed over, so its client is that of a call. -/
theorem exists_call_of_report {s : Session α σ} {calls : List (Nat × Undertaking α σ)}
    {started : List Task}
    (hclients : ∀ job ∈ s.jobs, ∀ r ∈ job.told Act.reported?, ∃ call ∈ calls, r.1 = call.2.client)
    (hreports : ((started.filterMap Task.report? : List _) : Multiset _) =
      (s.told Act.reported?).map fun r => (r.1, r.2.1.reportMessage, r.2.2))
    {t : Task} (ht : t ∈ started) (hreport : t.commandId? = none) :
    ∃ call ∈ calls, t.client = call.2.client := by
  obtain ⟨c, message, trace, span, rfl⟩ := Task.exists_report hreport
  have hmem : (c, message, span) ∈ ((started.filterMap Task.report? : List _) : Multiset _) := by
    rw [Multiset.mem_coe]
    exact List.mem_filterMap.2 ⟨_, ht, rfl⟩
  rw [hreports] at hmem
  obtain ⟨r, htold, hkey⟩ := Multiset.mem_map.1 hmem
  obtain ⟨job, hjob, htold⟩ := mem_told.1 htold
  obtain ⟨call, hcall, hclient⟩ := hclients job hjob r htold
  cases hkey
  exact ⟨call, hcall, hclient⟩

/-- However calls that report panics interleave, on clients that can post and whose backgrounds are
there, all of them and the tasks that they start end if everybody's turn comes again and again. By
then each call has come to what it should, whatever the collector has answered, and the POSTs made
match the reports one to one. -/
theorem one_report_each (h : Host) (slots : Nat → BacktraceSlot String)
    (calls : List (Nat × Undertaking α σ))
    (hcalls : ∀ call ∈ calls, call.2.isReporter = true ∧ call.2.client.background = .running ∧
      ∃ headers, call.2.client.CanPost headers) :
    let first := ofCalls h slots calls
    (∀ turns, Fair turns → ∃ n, (first.after turns n).isOver = true) ∧
    ∀ moves, (first.run moves).isOver = true →
      ∃ (ends : List (List (Client × Payload × Int64) × Upshot α σ)) (sent : List Post),
        List.Forall₂ (fun call e => call.2.Comes e.1 e.2) calls ends ∧
        List.Forall₂ (fun job e => job.told Act.concluded? = [e.2])
          ((first.run moves).jobs.take calls.length) ends ∧
        (first.run moves).host.posts = h.posts ++ sent ∧
        Multiset.Rel Post.Brings (sent : Multiset Post) (ends.flatMap Prod.fst : List _) := by
  intro first
  refine ⟨fun turns hfair => ends_of_fair h slots calls hfair, fun moves hover => ?_⟩
  obtain ⟨started, horigins, hreports, hids⟩ := exists_started_run h slots calls moves
  obtain ⟨own, rest, hr⟩ := exists_reported (fun call hcall => (hcalls call hcall).1) horigins hover
  obtain ⟨ends, hends, hupshots, hflat⟩ := exists_ends hr.own_origins hr.own_comes
  obtain ⟨sent, hposts, hsent⟩ := exists_sent_run h slots calls moves
  have htold : (first.run moves).told Act.reported? = (ends.flatMap Prod.fst : List _) := by
    rw [told_eq, hr.jobs_eq, List.flatMap_append, hflat,
      hr.flatMap_rest (fun _ _ => rfl) (fun _ => rfl) rfl, List.append_nil]
  have hhanded := told_handedOver fun job hjob r hreport => by
    obtain ⟨call, hcall, hclient⟩ := hr.exists_call job hjob r hreport
    rw [hclient]
    exact (hcalls call hcall).2.1
  have htasks : ∀ t ∈ started, t.commandId? = none := by
    rw [told_eq, hr.flatMap_launched, Multiset.coe_nil, Multiset.coe_eq_zero,
      List.filterMap_eq_nil_iff] at hids
    exact hids
  have hclients : ∀ t ∈ started, ∃ headers, t.client.CanPost headers := by
    intro t ht
    obtain ⟨call, hcall, hclient⟩ :=
      exists_call_of_report hr.exists_call (hreports.trans hhanded) ht (htasks t ht)
    rw [hclient]
    exact (hcalls call hcall).2.2
  have hdelivered := rel_delivers hr.rest_origins hr.rest_prospects htasks hclients
  rw [hreports, hhanded, htold, ← hr.flatMap_sent, ← told_eq, ← hsent, Multiset.rel_map_right]
    at hdelivered
  refine ⟨ends, sent, hends, ?_, hposts, hdelivered⟩
  have hlength : calls.length = own.length := by
    rw [← List.length_map (f := Prod.snd), ← hr.own_origins, List.length_map]
  rw [hr.jobs_eq, hlength, List.take_left]
  exact hupshots

/-- One reporter waits, the other one does not, and the collector is out of reach. -/
theorem one_report_each_unreached :
    let calls : List (Nat × Undertaking Unit Unit) :=
      [(0, .reportBlocking .unreached .plainThread (.literal "asked") 7),
        (1, .persist .unreached (.panics ⟨.owned "caught", ""⟩))]
    let moves := [1, 0, 1, 0, 3, 2, 3, 2, 2, 0, 0, 1, 3]
    let reports : List (Client × Payload × Int64) :=
      [(.unreached, .literal "asked", 7), (.unreached, .owned "caught", 0)]
    ∃ sent : List Post,
      ((ofCalls (.fresh "") (fun _ => none) calls).run moves).host.posts =
        (Host.fresh "").posts ++ sent ∧
      Multiset.Rel Post.Brings (sent : Multiset Post) (reports : Multiset _) := by
  intro calls moves reports
  have hcalls : ∀ call ∈ calls, call.2.isReporter = true ∧ call.2.client.background = .running ∧
      ∃ headers, call.2.client.CanPost headers := by
    intro call hcall
    simp only [calls, List.mem_cons, List.not_mem_nil, or_false] at hcall
    rcases hcall with rfl | rfl <;> exact ⟨rfl, rfl, Client.exists_canPost_unreached⟩
  obtain ⟨-, hends⟩ := one_report_each (.fresh "") (fun _ => none) calls hcalls
  obtain ⟨ends, sent, hcomes, -, hposts, hbrings⟩ :=
    hends moves (by decide +kernel)
  refine ⟨sent, hposts, ?_⟩
  simp only [calls, List.forall₂_cons_left_iff, List.forall₂_nil_left_iff] at hcomes
  obtain ⟨⟨asked, upshot⟩, _, hasked, ⟨⟨caught, value⟩, _, hcaught, rfl, rfl⟩, rfl⟩ := hcomes
  cases hasked
  cases hcaught
  exact hbrings

end Session

end Telemetry
