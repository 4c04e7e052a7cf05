import Telemetry.Proofs.Session.Duty

/-!
Undertakings that nothing interrupts.

`Alone` does duties one after the other with nobody else about. A duty that waits for a report waits
until the background has done all that was queued. `Undertaking.perform_alone` says that the duties
of an undertaking then do what the functions of the client, the flusher, the interceptor and the
service do, and come to what these return.
-/
namespace Telemetry

variable {α σ : Type}

/-- Duties that come from one another by steps in a row, with what is concluded in them. -/
inductive Alone : List (Duty α σ) × Host → List (Upshot α σ) → List (Duty α σ) × Host → Prop where
  | refl (s : List (Duty α σ) × Host) : Alone s [] s
  | step {d : Duty α σ} {rest left : List (Duty α σ)} {acts : List (Act α σ)} {h after : Host}
    {upshots : List (Upshot α σ)} {t : List (Duty α σ) × Host} (fresh : Nat)
    (hstep : d.step (fun _ => false) fresh h = (left, acts, after))
    (hrest : Alone (left ++ rest, after) upshots t) :
    Alone (d :: rest, h) (acts.filterMap Act.concluded? ++ upshots) t
  | settle {task : Nat} {rest : List (Duty α σ)} {h : Host} {upshots : List (Upshot α σ)}
    {t : List (Duty α σ) × Host} (hrest : Alone (rest, h.settle) upshots t) :
    Alone (.await (some task) :: rest, h) upshots t

/-- An activity concludes nothing. -/
theorem Activity.filterMap_concluded (a : Activity) (deeds : List Deed) :
    (a.captures ++ deeds.map Act.did : List (Act α σ)).filterMap Act.concluded? = [] :=
  a.filterMap_other deeds (fun _ _ => rfl) fun _ => rfl

theorem Activity.advance_of_isOver {a : Activity} (ha : a.isOver = true) (h : Host) :
    Activity.advance (a, h) = (a, h) := by
  cases a with
  | dispatching c agent commands launched =>
    cases commands with
    | nil => rfl
    | cons command rest => cases ha
  | ended => rfl
  | _ => cases ha

namespace Interceptor

variable {τ : Type} (i : Interceptor) (handler : Handler) (w : Writer τ) (req : Http.Request)
  (s : τ) (h : Host)

theorem serve_fst (handling : Handling) :
    (serve w handling s h).1 = w.performAll handling.ops s := by
  simp only [serve]
  cases handling.ending <;> rfl

/-- What an interception comes to depends on the host only through the span. -/
theorem intercept_fst :
    (i.intercept handler w req s h).1 =
      i.result handler w req s (i.spans.draw h.spansDrawn req.headers) := by
  simp only [intercept, result]
  generalize i.spans.draw h.spansDrawn req.headers = span
  cases hending : (handler req span).ending with
  | returns value => simp only [serve_fst]
  | panics p => cases hlast : (i.responder req p.payload.message).ending <;>
      simp only [serve_fst, hlast, Ending.panic?]

theorem intercept_snd_of_returns {span : SpanContext}
    (hspan : i.spans.draw h.spansDrawn req.headers = span)
    (hending : (handler req span).ending = .returns ()) :
    (i.intercept handler w req s h).2 =
      i.afterRequest req span (w.traced.performAll (handler req span).ops (.start s)).state.status
        (handler req span).elapsed false
        (serve w.traced (handler req span) (.start s)
          { h with spansDrawn := h.spansDrawn + 1 }).2 := by
  simp only [intercept, hspan, hending, serve_fst]

/-- The responder writes after all else has been done. -/
theorem intercept_snd_of_panics {span : SpanContext} {p : Panic}
    (hspan : i.spans.draw h.spansDrawn req.headers = span)
    (hending : (handler req span).ending = .panics p) :
    (i.intercept handler w req s h).2 =
      (serve w (i.responder req p.payload.message)
        (w.traced.performAll (handler req span).ops (.start s)).state.inner
        (i.recover req span (handler req span).elapsed p
          (serve w.traced (handler req span) (.start s)
            { h with spansDrawn := h.spansDrawn + 1 }).2)).2 := by
  simp only [intercept, hspan, hending, serve_fst]
  cases (i.responder req p.payload.message).ending <;> rfl

end Interceptor

namespace Alone

variable {s t u : List (Duty α σ) × Host} {rest : List (Duty α σ)} {h after : Host}

theorem trans {first second : List (Upshot α σ)} (hfirst : Alone s first t)
    (hsecond : Alone t second u) : Alone s (first ++ second) u := by
  induction hfirst with
  | refl s => exact hsecond
  | step fresh hstep _ ih =>
    rw [List.append_assoc]
    exact .step fresh hstep (ih hsecond)
  | settle _ ih => exact .settle (ih hsecond)

/-- A step in which nothing is concluded. -/
theorem quiet {d : Duty α σ} {left : List (Duty α σ)} {acts : List (Act α σ)}
    {upshots : List (Upshot α σ)} (fresh : Nat)
    (hstep : d.step (fun _ => false) fresh h = (left, acts, after))
    (hacts : acts.filterMap Act.concluded? = []) (hrest : Alone (left ++ rest, after) upshots t) :
    Alone (d :: rest, h) upshots t := by
  have hall := Alone.step fresh hstep hrest
  rwa [hacts] at hall

/-- The last duty concludes the undertaking. -/
theorem conclude (upshot : Upshot α σ) (h : Host) :
    Alone ([.conclude upshot], h) [upshot] ([], h) :=
  .step 0 rfl (.refl _)

/-- An activity that nothing interrupts is run to its end. -/
theorem run {a b : Activity} (hb : b.isOver = true)
    (hreach : Activity.Reaches (a, h) (b, after)) :
    Alone (.run a :: rest, h) ([] : List (Upshot α σ)) (rest, after) := by
  obtain ⟨n, hn⟩ := hreach
  -- the run ends with the first activity that is over, and from there on nothing changes
  induction n generalizing a h with
  | zero =>
    cases hn
    have hstay := Activity.advance_of_isOver hb after
    have hnext : (b.step after).1 = b := congrArg Prod.fst hstay
    have hafter : (b.step after).2.2 = after := congrArg Prod.snd hstay
    refine .quiet 0 (Duty.step_run _ 0 b after) (Activity.filterMap_concluded b _) ?_
    rw [hnext, hafter, Duty.goingOn, if_pos hb]
    exact .refl _
  | succ n ih =>
    rw [Function.iterate_succ_apply] at hn
    refine .quiet 0 (Duty.step_run _ 0 a h) (Activity.filterMap_concluded a _) ?_
    cases hover : (a.step h).1.isOver with
    | true =>
      have hstay : Activity.advance (Activity.advance (a, h)) = Activity.advance (a, h) :=
        Activity.advance_of_isOver hover _
      rw [Function.iterate_fixed hstay] at hn
      have hafter : (a.step h).2.2 = after := congrArg Prod.snd hn
      rw [hafter, Duty.goingOn, if_pos hover]
      exact .refl _
    | false =>
      rw [Duty.goingOn, hover]
      exact ih hn

/-- What a reply asks for is dispatched as by one call. -/
theorem dispatch (c : Client) (agent : Agent) (commands : List Command) (h : Host) :
    Alone (.run (.dispatching c agent commands 0) :: rest, h) ([] : List (Upshot α σ))
      (rest, (c.dispatch agent commands h).2) :=
  run rfl (Activity.dispatching_alone c agent commands 0 h)

theorem post (c : Client) (body : Bytes) (url : String) (seeks : Bool) (h : Host) :
    Alone (.post c body url seeks :: rest, h) ([] : List (Upshot α σ))
      (rest, c.post body url seeks h) := by
  rcases hbegin : c.begin? body url h with ⟨answer | answer, begun⟩
  · have hpost : c.post body url seeks h = begun := by simp only [Client.post, hbegin]
    have hstep : (Duty.post c body url seeks : Duty α σ).step (fun _ => false) 0 h =
        ([], [], begun) := by simp only [Duty.step, hbegin]
    rw [hpost]
    exact .quiet 0 hstep rfl (.refl _)
  · have hpost : c.post body url seeks h = c.conclude url seeks answer begun := by
      simp only [Client.post, hbegin]
    have hstep : (Duty.post c body url seeks : Duty α σ).step (fun _ => false) 0 h =
        ([.hear c url seeks answer],
          (begun.posts.drop h.posts.length).map fun post => .did (.sent post), begun) := by
      simp only [Duty.step, hbegin]
    have hsilent : ((begun.posts.drop h.posts.length).map fun post =>
        (Act.did (.sent post) : Act α σ)).filterMap Act.concluded? = [] := by
      rw [List.filterMap_map, List.filterMap_eq_nil_iff]
      intro post _
      rfl
    rw [hpost, Client.conclude_eq]
    refine .quiet 0 hstep hsilent ?_
    rcases hhear : Client.hear url seeks answer begun with ⟨reply | reply, noted⟩
    · have hlast : (Duty.hear c url seeks answer : Duty α σ).step (fun _ => false) 0 begun =
          ([], [], noted) := by
        simp only [Duty.step, hhear]
      exact .quiet 0 hlast rfl (.refl _)
    · have hnext : (Duty.hear c url seeks answer : Duty α σ).step (fun _ => false) 0 begun =
          ([.run (.dispatching c reply.agent reply.commands 0)], [], noted) := by
        simp only [Duty.step, hhear]
      exact .quiet 0 hnext rfl (dispatch c reply.agent reply.commands noted)

theorem decode (c : Client) (body : Bytes) (h : Host) :
    Alone (.decode c body :: rest, h) ([] : List (Upshot α σ)) (rest, (c.analyse body h).2) := by
  cases hdecode : CollectorReply.decode body with
  | error e =>
    have hanalyse : (c.analyse body h).2 = h.write
        (.error ("Failed to decode collector response: " ++ e.message)) := by
      simp only [Client.analyse, hdecode]
    have hlast : (Duty.decode c body : Duty α σ).step (fun _ => false) 0 h =
        ([], [], (c.analyse body h).2) := by
      simp only [Duty.step, hdecode, hanalyse]
    exact .quiet 0 hlast rfl (.refl _)
  | ok reply =>
    have hanalyse : (c.analyse body h).2 = (c.dispatch reply.agent reply.commands h).2 := by
      simp only [Client.analyse, hdecode]
    have hnext : (Duty.decode c body : Duty α σ).step (fun _ => false) 0 h =
        ([.run (.dispatching c reply.agent reply.commands 0)], [], h) := by
      simp only [Duty.step, hdecode]
    rw [hanalyse]
    exact .quiet 0 hnext rfl (dispatch c reply.agent reply.commands h)

/-- A report goes to the background, and the reporter waits for it if it is to. -/
theorem report (c : Client) (payload : Payload) (span : Int64) (patience : Patience) (h : Host) :
    Alone (.report c payload span patience :: rest, h) ([] : List (Upshot α σ))
      (rest, match patience with
        | .goesOn => c.report payload span h
        | .waits => c.reportAndWait payload span h
        | .cannotWait => (c.report payload span h).write Client.cannotWait) := by
  refine .quiet 0 rfl rfl ?_
  cases patience with
  | goesOn => exact .refl _
  | cannotWait => exact .quiet 0 rfl rfl (.refl _)
  | waits =>
    simp only [Patience.duties, Client.ticket, Client.reportAndWait, Client.await]
    cases c.background with
    | running => exact .settle (.refl _)
    | gone => exact .quiet 0 rfl rfl (.refl _)

/-- Work on a response logs and raises what it does as by one call. -/
theorem handling {τ : Type} (handling : Handling) (w : Writer τ) (s : τ) (h : Host) :
    Alone (handling.duties w s ++ rest, h) ([] : List (Upshot α σ))
      (rest, (Interceptor.serve w handling s h).2) := by
  obtain ⟨ops, ending, elapsed⟩ := handling
  refine .quiet 0 rfl rfl ?_
  cases ending with
  | returns value => exact .refl _
  | panics p => exact .quiet 0 rfl rfl (.refl _)

theorem account (r : Served) (h : Host) :
    Alone (.run (.counting r) :: rest, h) ([] : List (Upshot α σ)) (rest,
      r.interceptor.afterRequest r.request r.span r.status r.elapsed r.isProblem h) :=
  run (b := .ended) rfl ⟨2, rfl⟩

/-- A request that nothing interrupts is intercepted as by one call. -/
theorem intercept {τ : Type} (i : Interceptor) (handler : Handler) (w : Writer τ)
    (req : Http.Request) (s : τ) (h : Host) :
    Alone (i.duties handler w req s (i.spans.draw h.spansDrawn req.headers) ++ rest,
        { h with spansDrawn := h.spansDrawn + 1 }) ([] : List (Upshot α σ))
      (rest, (i.intercept handler w req s h).2) := by
  generalize hspan : i.spans.draw h.spansDrawn req.headers = span
  rw [Interceptor.duties, List.append_assoc]
  refine (handling (handler req span) w.traced (.start s) _).trans ?_
  cases hending : (handler req span).ending with
  | returns value =>
    rw [i.intercept_snd_of_returns handler w req s h hspan hending]
    exact account (i.returned handler w req s span) _
  | panics p =>
    rw [i.intercept_snd_of_panics handler w req s h hspan hending]
    refine .quiet 0 rfl rfl ?_
    refine (report i.client p.payload span.span .goesOn _).trans ?_
    refine (account (i.recovered handler req span) _).trans ?_
    exact handling (i.responder req p.payload.message) w _ _

end Alone

/-- A request whose body has been read is answered as by one call, on a worker. -/
theorem Service.answer_alone (s : Service) (req : Http.Request) (h : Host) :
    ∃ after, Alone ([.serve s req], h) ([.answered (s.answer req h).1] : List (Upshot α σ))
        ([], after) ∧
      (s.answer req h).2 = { after with slot := h.slot } := by
  generalize hspan : s.interceptor.spans.draw h.spansDrawn req.headers = span
  have hstep : (Duty.serve s req : Duty α σ).step (fun _ => false) 0 h =
      (s.duties req (s.worker h.spansDrawn) span, [.handled span],
        { h with spansDrawn := h.spansDrawn + 1, slot := none }) := by
    simp only [Duty.step, hspan]
  have hresult : (s.interceptor.intercept s.handler BufferedResponse.writer req .empty
      { h with slot := none }).1 = s.result req span := by
    rw [s.interceptor.intercept_fst, hspan, result]
  have hwork : ∀ rest : List (Duty α σ), Alone (s.interceptor.duties s.handler
      BufferedResponse.writer req .empty (s.interceptor.spans.draw h.spansDrawn req.headers) ++
        rest, { h with spansDrawn := h.spansDrawn + 1, slot := none }) []
      (rest, (s.interceptor.intercept s.handler BufferedResponse.writer req .empty
        { h with slot := none }).2) :=
    fun rest => .intercept s.interceptor s.handler BufferedResponse.writer req .empty
      { h with slot := none }
  rw [hspan] at hwork
  rcases hdone : s.interceptor.intercept s.handler BufferedResponse.writer req .empty
    { h with slot := none } with ⟨result, after⟩
  rw [hdone] at hresult hwork
  change result = _ at hresult
  subst hresult
  cases hescaped : (s.result req span).escaped with
  | none =>
    simp only [answer, Host.onOwnThread, hdone, hescaped]
    refine ⟨after, .quiet 0 hstep rfl ?_, rfl⟩
    simp only [duties, reply, hescaped, List.append_nil]
    exact (hwork _).trans (.conclude _ _)
  | some p =>
    simp only [answer, Host.onOwnThread, hdone, hescaped]
    refine ⟨after.write (workerFailed (s.worker h.spansDrawn) p.payload),
      .quiet 0 hstep rfl ?_, rfl⟩
    simp only [duties, reply, hescaped, List.append_nil, List.append_assoc]
    exact (hwork _).trans (.quiet 0 rfl rfl (.conclude _ _))

namespace Undertaking

/-- Whether something is done on a worker of its own, whose slot is not seen again. -/
def hasWorker : Undertaking α σ → Bool
  | .serve .. => true
  | _ => false

theorem serve_alone (s : Service) (head : Http.Request) (body : IncomingBody) (h : Host) :
    ∃ after, Alone ((serve s head body : Undertaking α σ).duties, h)
        [.answered (s.call head body h).1] ([], after) ∧
      (s.call head body h).2 = { after with slot := h.slot } := by
  have hread : ∀ (frames : List Bytes) (rest : List (Duty α σ)),
      Alone (frames.map Duty.read ++ rest, h) [] (rest, h) := by
    intro frames rest
    induction frames with
    | nil => exact .refl _
    | cons frame frames ih => exact .quiet 0 rfl rfl ih
  cases hfailure : body.failure with
  | some e =>
    refine ⟨(s.call head body h).2, ?_, ?_⟩
    · simp only [duties, Service.call, hfailure]
      exact (hread body.frames _).trans (.quiet 0 rfl rfl (.conclude _ _))
    · simp only [Service.call, hfailure]
      rfl
  | none =>
    simp only [duties, Service.call, hfailure]
    generalize { head with body := body.frames.flatten } = req
    obtain ⟨after, hwork, hhost⟩ := s.answer_alone (α := α) (σ := σ) req h
    exact ⟨after, (hread body.frames _).trans hwork, hhost⟩

/-- An undertaking that nothing interrupts does what its function does and comes to what that
returns. -/
theorem perform_alone (u : Undertaking α σ) (h : Host) :
    ∃ after, Alone (u.duties, h) [(u.perform h).1] ([], after) ∧
      (u.perform h).2 = if u.hasWorker then { after with slot := h.slot } else after := by
  have hfinish : ∀ {d : Duty α σ} {after : Host},
      Alone ([d, .conclude .finished], h) [] ([.conclude .finished], after) →
        Alone ([d, .conclude .finished], h) [.finished] ([], after) :=
    fun hd => hd.trans (.conclude _ _)
  cases u with
  | serve s head body => exact serve_alone s head body h
  | post c body url seeks => exact ⟨_, hfinish (.post c body url seeks h), rfl⟩
  | analyse c body => exact ⟨_, hfinish (.decode c body h), rfl⟩
  | shipTrace c trace message span =>
    obtain ⟨a, ha, hreach⟩ := Call.perform_alone (.report c trace message span) h
    exact ⟨_, hfinish (.run ha hreach), rfl⟩
  | flush c =>
    obtain ⟨a, ha, hreach⟩ := Call.perform_alone (.flush c) h
    exact ⟨_, hfinish (.run ha hreach), rfl⟩
  | task t =>
    obtain ⟨a, ha, hreach⟩ := t.run_alone h
    exact ⟨_, hfinish (.run ha hreach), rfl⟩
  | report c payload span => exact ⟨_, hfinish (.report c payload span .goesOn h), rfl⟩
  | reportAndWait c payload span => exact ⟨_, hfinish (.report c payload span .waits h), rfl⟩
  | reportBlocking c caller payload span =>
    refine ⟨_, hfinish (.report c payload span caller.patience h), ?_⟩
    cases caller <;> rfl
  | persist c work =>
    cases work with
    | returns value => exact ⟨h, .conclude _ _, rfl⟩
    | panics p =>
      refine ⟨_, .quiet 0 rfl rfl ?_, rfl⟩
      exact (Alone.report c p.payload 0 .goesOn _).trans (.conclude _ _)
  | persistRepanic c caller work =>
    cases work with
    | returns value => exact ⟨h, .conclude _ _, rfl⟩
    | panics p =>
      refine ⟨_, .quiet 0 rfl rfl
        ((Alone.report c p.payload 0 caller.patience _).trans (.conclude _ _)), ?_⟩
      cases caller <;> rfl
  | intercept i handler w req s =>
    refine ⟨(i.intercept handler w req s h).2, ?_, rfl⟩
    simp only [perform, Prod.map_fst, i.intercept_fst]
    refine .quiet 0 rfl rfl ?_
    rw [List.append_nil]
    exact (Alone.intercept i handler w req s h).trans (.conclude _ _)

end Undertaking

end Telemetry
