import Telemetry.Proofs.Session.Run

/-!
What may be told of duties when they are done.

Most of what a duty tells is settled when it is left, and a request is settled when its span has
been drawn, whatever the others do meanwhile. `Duty.May` says which acts a duty may come to and
`Prospect` says it of a list of duties. A step leaves duties with prospects that its own acts
complete (`Turn.may`), so what a job has told in the end is a prospect of what it has undertaken
(`prospect_past`). Nothing is said of duties that look for commands, since the collector has a say
in those.
-/
namespace Telemetry

variable {α σ : Type}

namespace Served

def recordActs (r : Served) : List (Act α σ) :=
  if r.isNotable then [.did (.recorded r.outcome)] else []

/-- What is told of a request that is accounted for. -/
def acts (r : Served) : List (Act α σ) :=
  .did (.counted r.status) :: r.recordActs

end Served

namespace Duty

/-- Whether all that a duty tells is settled when it is left. -/
def isSettled : Duty α σ → Bool
  | .run (.counting _) | .run (.recording _) => true
  | .run (.awaiting _ cargo _) => !cargo.seeksCommands
  | .read _ | .raise _ | .report .. | .await _ | .log _ | .conclude _ => true
  | _ => false

/-- What a settled duty tells. -/
def acts : Duty α σ → List (Act α σ)
  | .run (.counting r) => r.acts
  | .run (.recording r) => r.recordActs
  | .report c payload span _ => [.reported c payload span]
  | .conclude upshot => [.concluded upshot]
  | _ => []

/-- Whether the collector, or what others have done, has a say in what a duty tells. -/
def isOpen : Duty α σ → Bool
  | .run (.looking _) | .run .ended => true
  | .run a => a.mayLaunch
  | .post .. | .hear .. | .decode .. => true
  | _ => false

/-- What may be told of a duty by the time that it is done and all that it leaves. -/
inductive May : Duty α σ → List (Act α σ) → Prop where
  | settled {d : Duty α σ} (hd : d.isSettled = true) : May d d.acts
  | intercepts (i : Interceptor) (handler : Handler) (w : Writer σ) (req : Http.Request) (s : σ)
    (n : Nat) (span : SpanContext) (hspan : span = i.spans.draw n req.headers) :
    May (.intercept i handler w req s) (.handled span ::
      ((i.duties handler w req s span).flatMap acts ++
        [.concluded (.intercepted (i.result handler w req s span))]))
  | serves (s : Service) (req : Http.Request) (n : Nat) (span : SpanContext)
    (hspan : span = s.interceptor.spans.draw n req.headers) :
    May (.serve s req) (.handled span :: (s.duties req (s.worker n) span).flatMap acts)
  | sends {c : Client} {cargo : Cargo} {headers : Http.Headers}
    (hquiet : cargo.seeksCommands = false) (hc : c.CanPost headers) :
    May (.run (.sending c cargo)) [.did (.sent (cargo.post c headers))]
  | drops {c : Client} {cargo : Cargo} (hquiet : cargo.seeksCommands = false)
    (hc : ∀ headers, ¬ c.CanPost headers) : May (.run (.sending c cargo)) []
  | captures (id : Int64) {c : Client} {kind : CaptureKind} {upload : CaptureUpload}
    {rest : List (Act α σ)} (hrest : May (.run (.sending c (.capture kind upload))) rest) :
    May (.run (.capturing c id kind)) (.captured id kind :: rest)
  | undecided {d : Duty α σ} (hd : d.isOpen = true) (told : List (Act α σ)) : May d told

theorem May.eq_of_isSettled {d : Duty α σ} {told : List (Act α σ)} (h : d.May told)
    (hd : d.isSettled = true) : told = d.acts := by
  cases h with
  | settled => rfl
  | intercepts | serves | sends | drops | captures => cases hd
  | undecided hopen =>
    cases d with
    | run a =>
      cases a with
      | awaiting c cargo answer =>
        rw [isSettled, Bool.not_eq_true'] at hd
        cases hd.symm.trans hopen
      | counting | recording => cases hopen
      | _ => cases hd
    | post | hear | decode => cases hd
    | _ => cases hopen

end Duty

/-- What may be told of duties by the time that they are done. -/
inductive Prospect : List (Duty α σ) → List (Act α σ) → Prop where
  | nil : Prospect [] []
  | cons {d : Duty α σ} {rest : List (Duty α σ)} {told later : List (Act α σ)} (hd : d.May told)
    (hrest : Prospect rest later) : Prospect (d :: rest) (told ++ later)

namespace Prospect

theorem append {first second : List (Duty α σ)} {told later : List (Act α σ)}
    (hfirst : Prospect first told) (hsecond : Prospect second later) :
    Prospect (first ++ second) (told ++ later) := by
  induction hfirst with
  | nil => exact hsecond
  | cons hd _ ih =>
    rw [List.append_assoc]
    exact .cons hd ih

theorem exists_of_append {first second : List (Duty α σ)} {told : List (Act α σ)}
    (h : Prospect (first ++ second) told) :
    ∃ before later, told = before ++ later ∧ Prospect first before ∧ Prospect second later := by
  induction first generalizing told with
  | nil => exact ⟨[], told, rfl, .nil, h⟩
  | cons d rest ih =>
    cases h with
    | cons hd hrest =>
      obtain ⟨before, later, rfl, hbefore, hlater⟩ := ih hrest
      exact ⟨_, later, (List.append_assoc _ _ _).symm, .cons hd hbefore, hlater⟩

/-- Settled duties have one prospect. -/
theorem eq_of_isSettled {duties : List (Duty α σ)} {told : List (Act α σ)}
    (h : Prospect duties told) (hduties : ∀ d ∈ duties, d.isSettled = true) :
    told = duties.flatMap Duty.acts := by
  induction h with
  | nil => rfl
  | cons hd _ ih =>
    rw [List.flatMap_cons, hd.eq_of_isSettled (hduties _ List.mem_cons_self),
      ih fun d hmem => hduties d (List.mem_cons_of_mem _ hmem)]

theorem of_singleton {d : Duty α σ} {told : List (Act α σ)} (h : Prospect [d] told) :
    d.May told := by
  cases h with
  | cons hd hrest =>
    cases hrest
    rwa [List.append_nil]

end Prospect

theorem Duty.FollowUp.isSettled {c : Client} {d : Duty α σ} (hd : d.FollowUp c) :
    d.isSettled = true := by
  cases hd <;> rfl

/-! ### What a handled request tells -/

theorem Handling.acts_duties {τ : Type} (handling : Handling) (w : Writer τ) (s : τ) :
    (handling.duties w s : List (Duty α σ)).flatMap Duty.acts = [] := by
  unfold duties
  cases handling.ending <;> rfl

namespace Interceptor

variable {τ : Type} {i : Interceptor} {handler : Handler} {w : Writer τ} {req : Http.Request}
  {s : τ} {span : SpanContext}

theorem acts_of_returns (hending : (handler req span).ending = .returns ()) :
    (i.duties handler w req s span : List (Duty α σ)).flatMap Duty.acts =
      (i.returned handler w req s span).acts := by
  simp only [duties, hending, List.flatMap_append, Handling.acts_duties, List.nil_append,
    List.flatMap_singleton, Duty.acts]

/-- The report, the count and the record of a panic are told before the fallback has its turn, and
it has nothing to add. -/
theorem acts_of_panics {p : Panic} (hending : (handler req span).ending = .panics p) :
    (i.duties handler w req s span : List (Duty α σ)).flatMap Duty.acts =
      [.reported i.client p.payload span.span,
        .did (.counted Http.Status.internalServerError.code),
        .did (.recorded (i.recovered handler req span).outcome)] := by
  simp only [duties, hending, List.flatMap_append, Handling.acts_duties, List.nil_append,
    List.append_nil]
  rfl

end Interceptor

/-- What a service tells after the request is how it was answered. -/
theorem Service.acts_duties (s : Service) (req : Http.Request) (worker : String)
    (span : SpanContext) :
    (s.duties req worker span : List (Duty α σ)).flatMap Duty.acts =
      (s.interceptor.duties s.handler BufferedResponse.writer req .empty span).flatMap Duty.acts ++
        [.concluded (.answered (s.reply req span))] := by
  simp only [duties, List.flatMap_append, List.append_assoc]
  cases (s.result req span).escaped <;> rfl

/-! ### What a task tells -/

theorem Duty.May.of_sending {c : Client} {cargo : Cargo} {told : List (Act α σ)}
    (h : (Duty.run (.sending c cargo)).May told) (hquiet : cargo.seeksCommands = false) :
    (∃ headers, c.CanPost headers ∧ told = [.did (.sent (cargo.post c headers))]) ∨
      (∀ headers, ¬ c.CanPost headers) ∧ told = [] := by
  cases h with
  | settled hd => cases hd
  | @sends _ _ headers _ hc => exact Or.inl ⟨headers, hc, rfl⟩
  | drops _ hc => exact Or.inr ⟨hc, rfl⟩
  | undecided hopen => cases hquiet.symm.trans hopen

/-- What a task tells that makes some POSTs. -/
def Task.acts (t : Task) (sent : List Post) : List (Act α σ) :=
  t.activity.captures ++ sent.map (.did <| .sent ·) ++ [.concluded .finished]

theorem Task.filterMap_acts {f : Act α σ → Option β} (t : Task) (sent : List Post)
    (hcaptured : ∀ id kind, f (.captured id kind) = none)
    (hsent : ∀ post, f (.did (.sent post)) = none) (hconcluded : f (.concluded .finished) = none) :
    (t.acts sent).filterMap f = [] := by
  rw [List.filterMap_eq_nil_iff]
  intro act hact
  simp only [acts, List.mem_append, List.mem_map, List.mem_singleton] at hact
  rcases hact with (hcapture | ⟨post, -, rfl⟩) | rfl
  · cases t with
    | report => cases hcapture
    | capture c id kind =>
      rw [List.mem_singleton.1 hcapture]
      exact hcaptured id kind
  · exact hsent post
  · exact hconcluded

/-- A task tells of its capture if it is one and of at most one POST. The POST of a report is made
if it can be. -/
theorem Prospect.of_task {t : Task} {told : List (Act α σ)}
    (h : Prospect (Undertaking.task t).duties told) :
    ∃ sent : List Post, told = t.acts sent ∧
      ∀ c message trace span, t = .report c message trace span →
        (∃ headers, c.CanPost headers ∧
          sent = [(Cargo.report (PanicReport.make message trace span)).post c headers]) ∨
        (∀ headers, ¬ c.CanPost headers) ∧ sent = [] := by
  change Prospect ([.run t.activity] ++ [.conclude .finished]) told at h
  obtain ⟨first, later, rfl, hrun, hlast⟩ := exists_of_append h
  obtain rfl := hlast.of_singleton.eq_of_isSettled rfl
  cases t with
  | report c message trace span =>
    rcases hrun.of_singleton.of_sending rfl with ⟨headers, hc, rfl⟩ | ⟨hnone, rfl⟩
    · refine ⟨[_], rfl, ?_⟩
      rintro _ _ _ _ ⟨⟩
      exact .inl ⟨headers, hc, rfl⟩
    · refine ⟨[], rfl, ?_⟩
      rintro _ _ _ _ ⟨⟩
      exact .inr ⟨hnone, rfl⟩
  | capture c id kind =>
    have hcapture := hrun.of_singleton
    cases hcapture with
    | settled hd => cases hd
    | undecided hopen => cases hopen
    | captures _ hsend =>
      rcases hsend.of_sending rfl with ⟨headers, -, rfl⟩ | ⟨-, rfl⟩
      · refine ⟨[_], rfl, ?_⟩
        rintro _ _ _ _ ⟨⟩
      · refine ⟨[], rfl, ?_⟩
        rintro _ _ _ _ ⟨⟩

namespace Turn

variable {ended : Nat → Bool} {fresh : Nat} {h after : Host} {d : Duty α σ}
  {left : List (Duty α σ)} {acts : List (Act α σ)} {spawned : List Task}

theorem may_run {a next : Activity} {deeds : List Deed} (hs : Effect h a next deeds after)
    {told : List (Act α σ)} (htold : Prospect (Duty.goingOn next) told) :
    (Duty.run a : Duty α σ).May (a.captures ++ deeds.map .did ++ told) := by
  cases hs with
  | counts r =>
    rw [htold.of_singleton.eq_of_isSettled rfl]
    exact .settled (d := .run (.counting r)) rfl
  | records r log hnotable =>
    cases htold
    have hacts : (Duty.run (.recording r) : Duty α σ).acts = [.did (.recorded r.outcome)] := by
      simp only [Duty.acts, Served.recordActs, hnotable, if_true]
    show Duty.May _ [.did (.recorded r.outcome)]
    exact hacts ▸ .settled (d := .run (.recording r)) rfl
  | ignores r hnotable =>
    cases htold
    have hacts : (Duty.run (.recording r) : Duty α σ).acts = [] := by
      simp only [Duty.acts, Served.recordActs, hnotable, Bool.false_eq_true, if_false]
    show Duty.May _ []
    exact hacts ▸ .settled (d := .run (.recording r)) rfl
  | captures c id kind upload probes log => exact .captures id htold.of_singleton
  | posts c cargo headers hc =>
    cases hseeks : cargo.seeksCommands with
    | true => exact .undecided (d := .run (.sending c cargo)) hseeks _
    | false =>
      have hquiet : (Duty.run (.awaiting c cargo (c.collector h.posts (cargo.post c headers))) :
          Duty α σ).isSettled = true := by
        simp only [Duty.isSettled, hseeks, Bool.not_false]
      rw [htold.of_singleton.eq_of_isSettled hquiet]
      exact .sends hseeks hc
  | drops c cargo log hc =>
    cases htold
    cases hseeks : cargo.seeksCommands with
    | true => exact .undecided (d := .run (.sending c cargo)) hseeks _
    | false => exact .drops hseeks hc
  | closes c cargo answer log =>
    cases htold
    cases hseeks : cargo.seeksCommands with
    | true => exact .undecided (d := .run (.awaiting c cargo answer)) hseeks _
    | false =>
      refine .settled (d := .run (.awaiting c cargo answer)) ?_
      simp only [Duty.isSettled, hseeks, Bool.not_false]
  | hears c cargo reply decoded log hseeks hdecode =>
    exact .undecided (d := .run (.awaiting c cargo (.ok reply))) hseeks _
  | _ => exact .undecided rfl _

/-- The acts of a step complete what may be told of the duties that it leaves. -/
theorem may (hs : Turn ended fresh h d left acts spawned after) {told : List (Act α σ)}
    (htold : Prospect left told) : d.May (acts ++ told) := by
  cases hs with
  | runs a next deeds after hs => exact may_run hs htold
  | intercepts i handler w req s span hspan =>
    have hsettled : ∀ d ∈ (i.duties handler w req s span : List (Duty α σ)) ++
        [.conclude (.intercepted (i.result handler w req s span))], d.isSettled = true := by
      intro d hd
      rcases List.mem_append.1 hd with hd | hlast
      · exact (Interceptor.followUp d hd).isSettled
      · rw [List.mem_singleton.1 hlast]
        rfl
    rw [htold.eq_of_isSettled hsettled, List.flatMap_append]
    exact .intercepts i handler w req s h.spansDrawn span hspan
  | serves s req span hspan =>
    rw [htold.eq_of_isSettled fun d hd => (Service.followUp d hd).isSettled]
    exact .serves s req h.spansDrawn span hspan
  | reports c payload span patience trace log =>
    have hsettled : ∀ d ∈ (patience.duties (c.ticket fresh) : List (Duty α σ)),
        d.isSettled = true ∧ d.acts = [] := by
      intro d hd
      cases patience with
      | goesOn => cases hd
      | waits | cannotWait =>
        rw [List.mem_singleton.1 hd]
        exact ⟨rfl, rfl⟩
    have hnone : (patience.duties (c.ticket fresh) : List (Duty α σ)).flatMap Duty.acts = [] :=
      List.flatMap_eq_nil_iff.2 fun d hd => (hsettled d hd).2
    rw [htold.eq_of_isSettled fun d hd => (hsettled d hd).1, hnone]
    exact .settled (d := .report c payload span patience) rfl
  | waits task hover => exact htold.of_singleton
  | reads frame =>
    cases htold
    exact .settled (d := .read frame) rfl
  | raises p slot =>
    cases htold
    exact .settled (d := .raise p) rfl
  | arrives task hover =>
    cases htold
    exact .settled (d := .await (some task)) rfl
  | loses log =>
    cases htold
    exact .settled (d := .await none) rfl
  | logs lines log =>
    cases htold
    exact .settled (d := .log lines) rfl
  | concludes upshot =>
    cases htold
    exact .settled (d := .conclude upshot) rfl
  | _ => exact .undecided rfl _

end Turn

namespace Session

/-- What a job has told begins what may be told of its undertaking. -/
theorem kept_prospect : Kept fun job : Job α σ =>
    ∀ told, Prospect job.todo told → Prospect job.origin.duties (job.past ++ told) := by
  intro ended fresh host job d rest left acts spawned after hjob htodo hs
  refine ⟨?_, fun task _ thread told htold => htold⟩
  intro told htold
  obtain ⟨before, later, rfl, hbefore, hlater⟩ := Prospect.exists_of_append htold
  rw [htodo] at hjob
  have hall := hjob _ (.cons (hs.may hbefore) hlater)
  simpa only [Job.goOn, List.append_assoc] using hall

/-- What a job has told in the end may be told of its undertaking. -/
theorem prospect_past {h : Host} {slots : Nat → BacktraceSlot String}
    {calls : List (Nat × Undertaking α σ)} {moves : List Nat} {job : Job α σ}
    (hjob : job ∈ ((ofCalls h slots calls).run moves).jobs) (htodo : job.todo = []) :
    Prospect job.origin.duties job.past := by
  have hkept := forall_jobs_run kept_prospect (fun call _ told htold => htold) moves job hjob []
  rw [htodo, List.append_nil] at hkept
  exact hkept .nil

end Session

end Telemetry
