import Telemetry.Proofs.Http.Target
import Telemetry.Proofs.Panic.RoundTrip
import Telemetry.Proofs.Response.Operations
import Telemetry.Proofs.Session.Alone
import Telemetry.Proofs.Session.Turn

/-!
The accounts of one request.

Whatever a handler does, its request is counted once, recorded if it is worth it and, if the handler
panicked, reported. `Interceptor.intercept_host` names all that an interception changes.
-/
namespace Telemetry

open Http (Request)

variable {σ : Type}

/-- The milliseconds of a duration as they are recorded. -/
theorem Duration.toNat_saturatedMilliseconds (d : Duration) :
    d.saturatedMilliseconds.toNat = min (d.nanoseconds / 1000000) (UInt64.size - 1) := by
  have hlt : min d.milliseconds (UInt64.size - 1) < UInt64.size :=
    (Nat.min_le_right _ _).trans_lt (by decide)
  rw [saturatedMilliseconds, UInt64.toNat_ofNat_of_lt' hlt]
  rfl

/-- What a handler comes to in the statistics: the status that was seen if it returned, and 500 if
it panicked. -/
def Handling.status (handling : Handling) : UInt16 :=
  match handling.ending with
  | .returns () => WriterOp.observed handling.ops
  | .panics _ => 500

namespace Interceptor

variable (i : Interceptor)

/-- Whether a request is recorded. -/
theorem isNotable_iff (elapsed : Duration) (isProblem : Bool) :
    i.isNotable elapsed isProblem = true ↔
      isProblem = true ∨
        i.thresholdMs.toNat < min (elapsed.nanoseconds / 1000000) (UInt64.size - 1) := by
  rw [isNotable, Bool.or_eq_true, decide_eq_true_eq, UInt64.lt_iff_toNat_lt,
    elapsed.toNat_saturatedMilliseconds]

theorem afterRequest_host (req : Request) (span : SpanContext) (status : UInt16)
    (elapsed : Duration) (isProblem : Bool) (h : Host) :
    ∃ log, i.afterRequest req span status elapsed isProblem h =
      { h with
        statusCodes := h.statusCodes.inc status
        outcomes := ⟨h.outcomes.toList ++
          if i.isNotable elapsed isProblem then [outcome req span status elapsed isProblem]
          else []⟩
        log := log } := by
  refine ⟨(i.afterRequest req span status elapsed isProblem h).log, ?_⟩
  have hparts : i.afterRequest req span status elapsed isProblem h =
      record (outcome req span status elapsed isProblem) (i.isNotable elapsed isProblem) req
        (count status h) := rfl
  rw [hparts]
  cases hnotable : i.isNotable elapsed isProblem with
  | true =>
    simp only [record, count, if_true]
    rfl
  | false =>
    simp only [record, count, Bool.false_eq_true, if_false, List.append_nil]
    rfl

theorem serve_host (w : Writer σ) (handling : Handling) (s : σ) (h : Host) :
    ∃ slot log, (serve w handling s h).2 = { h with slot := slot, log := log } := by
  unfold serve
  cases handling.ending with
  | returns value => exact ⟨h.slot, _, rfl⟩
  | panics p => exact ⟨_, _, rfl⟩

theorem recover_host (req : Request) (span : SpanContext) (elapsed : Duration) (p : Panic)
    (h : Host) :
    ∃ trace log, i.recover req span elapsed p h =
      { h with
        statusCodes := h.statusCodes.inc 500
        outcomes := ⟨h.outcomes.toList ++ [outcome req span 500 elapsed true]⟩
        slot := none
        log := log
        tasks := h.tasks ++ i.client.reportTasks p.payload.reportMessage trace span.span } := by
  obtain ⟨trace, log, hreport⟩ := i.client.report_host p.payload span.span
    (h.write (.warn ("Recovered panic in handler for " ++ requestLine req ++ ": " ++
      p.payload.message)))
  obtain ⟨log, hcounted⟩ := i.afterRequest_host req span Http.Status.internalServerError.code
    elapsed true (i.client.report p.payload span.span (h.write (.warn
      ("Recovered panic in handler for " ++ requestLine req ++ ": " ++ p.payload.message))))
  refine ⟨trace, log, hcounted.trans ?_⟩
  rw [hreport]
  rfl

/-- All that an interception changes. -/
theorem intercept_host (handler : Handler) (w : Writer σ) (req : Request) (s : σ) (h : Host) :
    let span := i.spans.draw h.spansDrawn req.headers
    let handling := handler req span
    let isProblem := handling.ending.panic?.isSome
    ∃ trace slot log, (i.intercept handler w req s h).2 =
      { h with
        spansDrawn := h.spansDrawn + 1
        statusCodes := h.statusCodes.inc handling.status
        outcomes := ⟨h.outcomes.toList ++
          if i.isNotable handling.elapsed isProblem then
            [outcome req span handling.status handling.elapsed isProblem]
          else []⟩
        tasks := h.tasks ++ handling.ending.panic?.toList.flatMap fun p =>
          i.client.reportTasks p.payload.reportMessage trace span.span
        slot := slot
        log := log } := by
  intro span handling isProblem
  cases hending : handling.ending with
  | returns value =>
    have hstatus : handling.status = WriterOp.observed handling.ops := by
      simp only [Handling.status, hending]
    have hproblem : isProblem = false := by
      simp only [isProblem, hending, Ending.panic?, Option.isSome_none]
    obtain ⟨slot, before, hserved⟩ := serve_host w.traced handling (.start s)
      { h with spansDrawn := h.spansDrawn + 1 }
    obtain ⟨log, hcounted⟩ := i.afterRequest_host req span handling.status handling.elapsed false
      { h with spansDrawn := h.spansDrawn + 1, slot := slot, log := before }
    rw [i.intercept_snd_of_returns handler w req s h rfl hending, w.status_traced, ← hstatus,
      hserved, hcounted, hproblem]
    exact ⟨"", slot, log, by simp [Ending.panic?]⟩
  | panics p =>
    have hstatus : handling.status = 500 := by
      simp only [Handling.status, hending]
    have hproblem : isProblem = true := by
      simp only [isProblem, hending, Ending.panic?, Option.isSome_some]
    obtain ⟨slot, before, hserved⟩ := serve_host w.traced handling (.start s)
      { h with spansDrawn := h.spansDrawn + 1 }
    obtain ⟨trace, log, hrecovered⟩ := i.recover_host req span handling.elapsed p
      { h with spansDrawn := h.spansDrawn + 1, slot := slot, log := before }
    obtain ⟨slot, after, hanswered⟩ := serve_host w (i.responder req p.payload.message)
      (w.traced.performAll (handler req span).ops (.start s)).state.inner
      (i.recover req span handling.elapsed p
        { h with spansDrawn := h.spansDrawn + 1, slot := slot, log := before })
    rw [i.intercept_snd_of_panics handler w req s h rfl hending, hserved, hanswered, hrecovered,
      hproblem, hstatus]
    exact ⟨trace, slot, after, by simp [Ending.panic?, isNotable]⟩

theorem results_result (handler : Handler) (w : Writer σ) (req : Request) (s : σ)
    (span : SpanContext) :
    (i.result handler w req s span).results =
      (w.performAll (handler req span).ops s).results := by
  have htraced := (w.performAll_traced (handler req span).ops (.start s)).1
  rw [result]
  cases (handler req span).ending <;> exact htraced

/-- Nothing escapes but a panic of the responder. -/
theorem escaped_result (handler : Handler) (w : Writer σ) (req : Request) (s : σ)
    (span : SpanContext) :
    (i.result handler w req s span).escaped = (handler req span).ending.panic?.bind fun p =>
      (i.responder req p.payload.message).ending.panic? := by
  rw [result]
  cases (handler req span).ending <;> rfl

/-- A report that can be posted is one POST, which names the report's span. -/
theorem posts_report {c : Client} {headers : Http.Headers} (hc : c.CanPost headers)
    (message trace : String) {span : Int64} (hspan : 0 < span) (h : Host) :
    ∃ post report, ((Task.report c message trace span).run h).posts = h.posts ++ [post] ∧
      PanicReport.decode post.body = .ok report ∧ report.span = some span := by
  refine ⟨⟨c.config.url Client.panicsPath, headers, (PanicReport.make message trace span).encode⟩,
    PanicReport.make message trace span, ?_, PanicReport.decode_encode _, if_pos hspan⟩
  obtain ⟨log, hpost⟩ := Client.post_unheeded hc (PanicReport.make message trace span).encode
    (c.config.url Client.panicsPath) h
  rw [Task.run, Client.shipTrace_eq_post, hpost]

/-- The accounts of one request. It is counted under one status, and recorded if its handler
panicked or took longer than the threshold. The handler, the record and the report know it by one
span. Nothing that the handler does escapes. -/
theorem interception_accounting (handler : Handler) (w : Writer σ) (req : Request) (s : σ)
    (h : Host) :
    let span := i.spans.draw h.spansDrawn req.headers
    let handling := handler req span
    let isProblem := handling.ending.panic?.isSome
    let ms := min (handling.elapsed.nanoseconds / 1000000) (UInt64.size - 1)
    let came := (i.intercept handler w req s h).1
    let after := (i.intercept handler w req s h).2
    0 < span.span ∧ came.results = (w.performAll handling.ops s).results ∧
    (handling.ending = .returns () →
      handling.status = (w.traced.performAll handling.ops (.start s)).state.status) ∧
    (∀ status, after.statusCodes.get status =
      if status = handling.status then h.statusCodes.get status + 1
      else h.statusCodes.get status) ∧
    after.outcomes.toList = h.outcomes.toList ++
      (if isProblem ∨ i.thresholdMs.toNat < ms then
        [{ path := req.target.path
           method := req.method
           status := handling.status
           elapsed := UInt64.ofNat ms
           span := span.span
           parentSpan := Span.parentOf req.headers
           isProblem := isProblem
           headers := Span.snapshot req.headers }]
      else []) ∧
    (∀ path query, Http.Target.IsBare path →
      Http.Target.parse? (path ++ 0x3F :: query) = some req.target →
        Http.Target.parse? path = some req.target) ∧
    (∀ path, Http.Target.IsBare path → path.head? = some 0x2F →
      Http.Target.parse? path = some req.target → path = Text.Utf8.ofString req.target.path) ∧
    (∃ trace, after.tasks = h.tasks ++ handling.ending.panic?.toList.flatMap fun p =>
      i.client.reportTasks p.payload.reportMessage trace span.span) ∧
    (∀ headers, i.client.CanPost headers → ∀ message trace later, ∃ post report,
      ((Task.report i.client message trace span.span).run later).posts = later.posts ++ [post] ∧
        PanicReport.decode post.body = .ok report ∧ report.span = some span.span) ∧
    came.escaped =
      handling.ending.panic?.bind fun p => (i.responder req p.payload.message).ending.panic? := by
  intro span handling isProblem ms came after
  obtain ⟨trace, slot, log, hafter⟩ := i.intercept_host handler w req s h
  have hspan : 0 < span.span := i.spans.positive h.spansDrawn
  have hcame : came = i.result handler w req s span := i.intercept_fst handler w req s h
  refine ⟨hspan, ?_, ?_, ?_, ?_, ?_, ?_, ⟨trace, congrArg Host.tasks hafter⟩, ?_, ?_⟩
  · rw [hcame, i.results_result]
  · intro hending
    simp only [Handling.status, hending, w.status_traced]
  · intro status
    have hcodes : after.statusCodes = h.statusCodes.inc handling.status :=
      congrArg Host.statusCodes hafter
    rw [hcodes, StatusCounter.get_inc]
    split
    next hstatus => rw [hstatus]
    next => rfl
  · have houtcomes : after.outcomes.toList = h.outcomes.toList ++
        if i.isNotable handling.elapsed isProblem then
          [outcome req span handling.status handling.elapsed isProblem] else [] :=
      congrArg (fun g : Host => g.outcomes.toList) hafter
    rw [houtcomes, if_congr (i.isNotable_iff handling.elapsed isProblem) rfl rfl]
    rfl
  · exact fun path query hbare hparse => Http.Target.parse?_of_query hbare hparse
  · exact fun path hbare hslash hparse => Http.Target.eq_ofString_of_parse? hbare hslash hparse
  · exact fun headers hc message trace later => posts_report hc message trace hspan later
  · rw [hcame, i.escaped_result]

/-- A handler writes, which looks like success, and then panics, far below the threshold. -/
theorem interception_accounting_recovered :
    let i : Interceptor := ⟨.unreached, 500, .standard, .seeded 0⟩
    let handler : Handler :=
      fun _ _ => ⟨[.write [104] none], .panics ⟨.literal "boom", ""⟩, ⟨3999999⟩⟩
    let req : Request := ⟨"GET", ⟨"/x"⟩, [], []⟩
    let done := i.intercept handler BufferedResponse.writer req .empty (.fresh "")
    done.2.statusCodes.get 500 = 1 ∧ done.2.statusCodes.get 200 = 0 ∧
      done.2.outcomes.toList.map (fun o => (o.path, o.elapsed)) = [("/x", 3)] ∧
      done.2.tasks.length = 1 ∧
      done.1.escaped = none := by
  intro i handler req done
  obtain ⟨-, -, -, hcounted, hrecorded, -, -, ⟨trace, htasks⟩, -, hescaped⟩ :=
    i.interception_accounting handler BufferedResponse.writer req .empty (.fresh "")
  refine ⟨hcounted 500, hcounted 200, ?_, congrArg List.length htasks, hescaped⟩
  simp only [done, hrecorded, handler, Ending.panic?, Option.isSome_some, true_or, if_true]
  rfl

end Interceptor

end Telemetry
