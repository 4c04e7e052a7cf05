import Telemetry.Proofs.Requests.Interception
import Telemetry.Proofs.Requests.ResponseContent

/-!
When the status that is counted is the one that the client receives.

The tracer goes by the last status that a handler names, the response by the first operation that
bears on its status. An empty response has been given no status, yet it is sent as a 200. Edits of
headers play no part in either.
-/
namespace Telemetry

theorem Http.Status.code_inj {a b : Http.Status} : a.code = b.code ↔ a = b := by
  constructor
  · intro hcode
    cases a
    cases b
    cases hcode
    rfl
  · exact congrArg code

namespace WriterOp

/-- The operations that bear on the status of a response: all but edits of headers. -/
def bearing (ops : List WriterOp) : List WriterOp :=
  ops.filter fun op => op.implied?.isSome

theorem bearing_cons (op : WriterOp) (ops : List WriterOp) :
    bearing (op :: ops) = if op.implied?.isSome then op :: bearing ops else bearing ops :=
  List.filter_cons

theorem impliedBy?_eq_head? (ops : List WriterOp) :
    impliedBy? ops = (bearing ops).head?.bind implied? := by
  induction ops with
  | nil => rfl
  | cons op ops ih =>
    rw [impliedBy?_cons, bearing_cons]
    cases op with
    | edit change => exact ih
    | write bytes note => rfl
    | writeHeader status => rfl

theorem lastNamed?_eq_getLast? (ops : List WriterOp) :
    lastNamed? ops = ((bearing ops).filterMap named?).getLast? := by
  induction ops with
  | nil => rfl
  | cons op ops ih =>
    rw [lastNamed?_cons, bearing_cons]
    cases op with
    | edit change => exact (Option.or_none).trans ih
    | write bytes note => exact (Option.or_none).trans ih
    | writeHeader status =>
      change (lastNamed? ops).or (some status) =
        (status :: (bearing ops).filterMap named?).getLast?
      rw [ih, List.getLast?_cons]
      cases ((bearing ops).filterMap named?).getLast? <;> rfl

theorem impliedBy?_eq_none {ops : List WriterOp} : impliedBy? ops = none ↔ bearing ops = [] := by
  rw [impliedBy?, List.findSome?_eq_none_iff, bearing, List.filter_eq_nil_iff]
  simp only [Option.isSome_iff_ne_none, ne_eq, not_not]

/-- Operations that name no status imply none but 200. -/
theorem impliedBy?_of_unnamed {ops : List WriterOp} (hunnamed : lastNamed? ops = none)
    {status : Http.Status} (hstatus : impliedBy? ops = some status) : status = .ok := by
  induction ops with
  | nil => cases hstatus
  | cons op ops ih =>
    rw [lastNamed?_cons, Option.or_eq_none_iff] at hunnamed
    rw [impliedBy?_cons] at hstatus
    cases op with
    | edit change => exact ih hunnamed.1 hstatus
    | write bytes note => exact (Option.some.inj hstatus).symm
    | writeHeader status => cases hunnamed.2

theorem lastNamed?_of_silent {ops : List WriterOp} (hsilent : bearing ops = []) :
    lastNamed? ops = none := by
  rw [lastNamed?_eq_getLast?, hsilent]
  rfl

theorem observed_of_silent {ops : List WriterOp} (hsilent : bearing ops = []) :
    observed ops = 0 := by
  rw [observed, lastNamed?_of_silent hsilent, impliedBy?_eq_none.2 hsilent]

theorem observed_of_named {ops : List WriterOp} {status : Http.Status}
    (hnamed : lastNamed? ops = some status) : observed ops = status.code := by
  rw [observed, hnamed]

theorem observed_of_unnamed {ops : List WriterOp} (hbearing : bearing ops ≠ [])
    (hunnamed : lastNamed? ops = none) : observed ops = 200 := by
  obtain ⟨first, himplied⟩ := Option.ne_none_iff_exists'.1 (mt impliedBy?_eq_none.1 hbearing)
  rw [observed, hunnamed, himplied]

/-- What a tracer sees is the status of the response if there is something to see and no status is
named, or the last one named is the one that holds. -/
theorem observed_eq_iff (ops : List WriterOp) :
    observed ops = ((impliedBy? ops).getD .ok).code ↔
      bearing ops ≠ [] ∧ (lastNamed? ops = none ∨ lastNamed? ops = impliedBy? ops) := by
  cases himplied : impliedBy? ops with
  | none =>
    have hsilent : bearing ops = [] := impliedBy?_eq_none.1 himplied
    constructor
    · intro hagree
      rw [observed_of_silent hsilent] at hagree
      exact absurd hagree.symm (Http.Status.code_ne_zero .ok)
    · rintro ⟨hbearing, -⟩
      exact absurd hsilent hbearing
  | some first =>
    have hbearing : bearing ops ≠ [] := by
      intro hsilent
      cases himplied.symm.trans (impliedBy?_eq_none.2 hsilent)
    cases hnamed : lastNamed? ops with
    | none =>
      rw [impliedBy?_of_unnamed hnamed himplied, observed_of_unnamed hbearing hnamed]
      exact ⟨fun _ => ⟨hbearing, Or.inl rfl⟩, fun _ => rfl⟩
    | some last =>
      rw [observed_of_named hnamed, Option.getD_some, Http.Status.code_inj]
      constructor
      · intro hagree
        exact ⟨hbearing, Or.inr (congrArg some hagree)⟩
      · rintro ⟨-, hnone | hsame⟩
        · cases hnone
        · exact Option.some.inj hsame

end WriterOp

open WriterOp

namespace Service

variable (s : Service) {head : Http.Request} {body : IncomingBody}

/-- A call is counted once, under what its handler comes to. -/
theorem statusCodes_call (hread : body.failure = none) (h : Host) :
    let req : Http.Request := { head with body := body.frames.flatten }
    (s.call head body h).2.statusCodes = h.statusCodes.inc
      (s.handler req (s.interceptor.spans.draw h.spansDrawn req.headers)).status := by
  intro req
  obtain ⟨trace, slot, log, hafter⟩ :=
    s.interceptor.intercept_host s.handler BufferedResponse.writer req .empty
      { h with slot := none }
  simp only [call, hread, answer, Host.onOwnThread]
  rcases hcame : s.interceptor.intercept s.handler BufferedResponse.writer req .empty
    { h with slot := none } with ⟨done, after⟩
  rw [hcame] at hafter
  have hcodes := congrArg Host.statusCodes hafter
  cases done.escaped <;> exact hcodes

/-- The response to a request whose handler returns is what the handler has left in the buffer. -/
theorem response_call_of_returns (hread : body.failure = none) (h : Host)
    (hreturns : (s.handler { head with body := body.frames.flatten }
      (s.interceptor.spans.draw h.spansDrawn head.headers)).ending = .returns ()) :
    (s.call head body h).1.response =
      (BufferedResponse.writer.traced.performAll
        (s.handler { head with body := body.frames.flatten }
          (s.interceptor.spans.draw h.spansDrawn head.headers)).ops
        (.start .empty)).state.inner.toResponse := by
  rw [s.call_fst hread h]
  simp only [reply, result, Interceptor.result, hreturns]

/-- When the status that is counted is the one that is sent. The tracer's status is zero as long as
nothing bears on it, then that of the last status named, and 200 if there are only writes. The
status of the response is that of the first operation that bears on it, and 200 if there is none.
For a handler that returns, the one is counted and the other is what the client receives. They
agree exactly if anything was written or named at all and the status named last, if there is one, is
also the first to be given. -/
theorem counted_iff_received (ops : List WriterOp) :
    let said := bearing ops
    let named := said.filterMap named?
    let done := (BufferedResponse.writer.traced.performAll ops (.start .empty)).state
    (said = [] → done.status = 0) ∧
    (∀ status, named.getLast? = some status → done.status = status.code) ∧
    (said ≠ [] → named = [] → done.status = 200) ∧
    (said = [] → done.inner.toResponse.status = ⟨200, by decide⟩) ∧
    (∀ op, said.head? = some op → op.implied? = some done.inner.toResponse.status) ∧
    ∀ (s : Service) (head : Http.Request) (body : IncomingBody) (h : Host),
      let handling := s.handler { head with body := body.frames.flatten }
        (s.interceptor.spans.draw h.spansDrawn head.headers)
      body.failure = none → handling.ops = ops → handling.ending = .returns () →
        let received := (s.call head body h).1.response.status
        received = done.inner.toResponse.status ∧
        (s.call head body h).2.statusCodes = h.statusCodes.inc done.status ∧
        (done.status = received.code ↔ said ≠ [] ∧
          (named = [] ∨ named.getLast? = said.head?.bind implied?)) := by
  intro said named done
  have hseen : done.status = observed ops := BufferedResponse.writer.status_traced ops .empty
  have hsent : done.inner.toResponse.status = (impliedBy? ops).getD .ok := by
    rw [(BufferedResponse.writer.performAll_traced ops (.start .empty)).2.1,
      BufferedResponse.performAll_writer]
    rfl
  have hfirst : impliedBy? ops = said.head?.bind implied? := impliedBy?_eq_head? ops
  have hlast : lastNamed? ops = named.getLast? := lastNamed?_eq_getLast? ops
  refine ⟨?_, ?_, ?_, ?_, ?_, ?_⟩
  · intro hsilent
    exact hseen.trans (observed_of_silent hsilent)
  · intro status hstatus
    exact hseen.trans (observed_of_named (hlast.trans hstatus))
  · intro hbearing hunnamed
    have hnone : lastNamed? ops = none := by
      rw [hlast, hunnamed]
      rfl
    exact hseen.trans (observed_of_unnamed hbearing hnone)
  · intro hsilent
    rw [hsent, impliedBy?_eq_none.2 hsilent]
    rfl
  · intro op hop
    have hbears : op.implied?.isSome = true :=
      (List.mem_filter.1 (List.mem_of_head? hop)).2
    obtain ⟨status, hstatus⟩ := Option.isSome_iff_exists.1 hbears
    rw [hsent, hfirst, hop, Option.bind_some, hstatus]
    rfl
  · intro s head body h handling hread hops hreturns received
    have hresponse : (s.call head body h).1.response = done.inner.toResponse := by
      rw [s.response_call_of_returns hread h hreturns, hops]
    have hreceived : received = done.inner.toResponse.status :=
      congrArg Http.Response.status hresponse
    have hcounted : handling.status = done.status := by
      rw [hseen, Handling.status, hreturns, hops]
    refine ⟨hreceived, ?_, ?_⟩
    · rw [s.statusCodes_call hread h, ← hcounted]
    · rw [hreceived, hsent, hseen, observed_eq_iff, hlast, hfirst, List.getLast?_eq_none_iff]

/-- A handler writes and then names a status, which comes too late for the client. -/
theorem counted_iff_received_late :
    let s : Service :=
      { interceptor := ⟨.unreached, 500, .standard, .seeded 0⟩
        handler := fun _ _ =>
          ⟨[.setHeader .contentType .json, .write [104, 105] none, .writeHeader .notFound],
            .returns (), ⟨0⟩⟩
        worker := fun _ => "" }
    let came := s.call ⟨"GET", ⟨"/"⟩, [], []⟩ ⟨[], none⟩ (.fresh "")
    came.1.response.status.code = 200 ∧ came.2.statusCodes = StatusCounter.empty.inc 404 := by
  intro s came
  obtain ⟨-, hnamed, -, -, hfirst, hcall⟩ := counted_iff_received
    [.setHeader .contentType .json, .write [104, 105] none, .writeHeader .notFound]
  obtain ⟨hreceived, hcounted, -⟩ :=
    hcall s ⟨"GET", ⟨"/"⟩, [], []⟩ ⟨[], none⟩ (.fresh "") rfl rfl rfl
  refine ⟨?_, ?_⟩
  · rw [hreceived]
    exact congrArg Http.Status.code (Option.some.inj (hfirst _ rfl)).symm
  · rw [hcounted, hnamed .notFound rfl]
    rfl

end Service

end Telemetry
