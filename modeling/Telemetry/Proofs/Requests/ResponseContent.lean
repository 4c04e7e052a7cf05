import Telemetry.Proofs.Client.Sending
import Telemetry.Proofs.Response.Operations
import Telemetry.Proofs.Session.Alone

/-!
What a client receives.

The response of a service is what its handler wrote. If the handler panicked, the standard responder
writes on into the same response: its status comes too late if the handler gave one, its header
replaces the handler's, and its text comes after the handler's.
-/
namespace Telemetry

open WriterOp

namespace Http.Headers

theorem getAll_insert_self (name : HeaderName) (value : HeaderValue) (headers : Headers) :
    (insert name value headers).getAll name = [value] := by
  have hothers : (headers.filter (fun h => h.1 ≠ name)).filter (fun h => h.1 = name) = [] := by
    rw [List.filter_filter, List.filter_eq_nil_iff]
    intro h _
    simp
  rw [getAll, insert, List.filter_append, hothers]
  simp

theorem getAll_insert_of_ne {name other : HeaderName} (hne : other ≠ name) (value : HeaderValue)
    (headers : Headers) : (insert name value headers).getAll other = headers.getAll other := by
  have hothers : (headers.filter (fun h => h.1 ≠ name)).filter (fun h => h.1 = other) =
      headers.filter (fun h => h.1 = other) := by
    rw [List.filter_filter]
    refine List.filter_congr fun h _ => ?_
    by_cases hh : h.1 = other <;> simp [hh, hne]
  rw [getAll, insert, List.filter_append, hothers, getAll]
  simp [hne.symm]

end Http.Headers

/-- The response that comes of a handler's work, completed by the standard responder if it
panicked. -/
def Handling.response (handling : Handling) : Http.Response :=
  match handling.ending with
  | .returns () =>
    ⟨(impliedBy? handling.ops).getD .ok, edited handling.ops [], written handling.ops⟩
  | .panics p =>
    ⟨(impliedBy? handling.ops).getD .internalServerError,
      Http.Headers.insert .contentType .plainText (edited handling.ops []),
      written handling.ops ++ Text.Utf8.ofString p.payload.message⟩

/-- A status that comes after another one, or after a write, is not seen in the response. -/
theorem Handling.response_of_superfluous {handling : Handling} {before after : List WriterOp}
    {status : Http.Status} (hops : handling.ops = before ++ .writeHeader status :: after)
    (hbefore : (impliedBy? before).isSome = true) :
    ({ handling with ops := before ++ after } : Handling).response = handling.response := by
  obtain ⟨first, hfirst⟩ := Option.isSome_iff_exists.1 hbefore
  have himplied : ∀ rest, impliedBy? (before ++ rest) = some first := by
    intro rest
    rw [impliedBy?, List.findSome?_append, ← impliedBy?, hfirst, Option.some_or]
  have hedited : edited (before ++ after) [] = edited handling.ops [] := by
    rw [hops, edited, edited, List.foldl_append, List.foldl_append]
    rfl
  have hwritten : written (before ++ after) = written handling.ops := by
    rw [hops, written, written, List.flatMap_append, List.flatMap_append]
    rfl
  have hstatus : impliedBy? (before ++ after) = impliedBy? handling.ops := by
    rw [hops, himplied, himplied]
  simp only [response, hedited, hwritten, hstatus]

namespace Service

variable (s : Service) (req : Http.Request) (span : SpanContext)

/-- A call whose body can be read is answered by what comes of its request. -/
theorem call_fst {head : Http.Request} {body : IncomingBody} (hread : body.failure = none)
    (h : Host) :
    (s.call head body h).1 =
      s.reply { head with body := body.frames.flatten }
        (s.interceptor.spans.draw h.spansDrawn head.headers) := by
  have hresult := s.interceptor.intercept_fst s.handler BufferedResponse.writer
    { head with body := body.frames.flatten } .empty { h with slot := none }
  simp only [call, hread, answer, Host.onOwnThread, reply, result, ← hresult]
  rcases s.interceptor.intercept s.handler BufferedResponse.writer
    { head with body := body.frames.flatten } .empty { h with slot := none } with ⟨done, after⟩
  cases done.escaped <;> rfl

theorem response_reply (hresponder : s.interceptor.responder = .standard) :
    (s.reply req span).response = (s.handler req span).response := by
  obtain ⟨-, hinner, -⟩ :=
    BufferedResponse.writer.performAll_traced (s.handler req span).ops (.start .empty)
  have hescaped : (s.result req span).escaped = none := by
    simp only [result, Interceptor.result, hresponder]
    cases (s.handler req span).ending <;> rfl
  have hreply : (s.reply req span).response = (s.result req span).response.toResponse := by
    simp only [reply, hescaped]
  rw [hreply, Handling.response, result, Interceptor.result]
  cases (s.handler req span).ending with
  | returns value =>
    simp only [hinner, BufferedResponse.performAll_writer]
    rfl
  | panics p =>
    have hwritten : written (PanicResponder.standard req p.payload.message).ops =
        Text.Utf8.ofString p.payload.message := List.append_nil _
    simp only [hresponder, hinner, BufferedResponse.performAll_writer, hwritten]
    -- the responder's status counts only if the handler has left the response without one
    cases impliedBy? (s.handler req span).ops <;> rfl

/-- What a client receives. Where the handler has given the response a status, by a write or by
name, the first one holds. A panic adds its message and the type of a text, and nothing else. -/
theorem response_content (head : Http.Request) (body : IncomingBody) (hread : body.failure = none)
    (hresponder : s.interceptor.responder = .standard) (h : Host) :
    let req : Http.Request := { head with body := body.frames.flatten }
    let span := s.interceptor.spans.draw h.spansDrawn req.headers
    let handling := s.handler req span
    let response := (s.call head body h).1.response
    let contentType : Http.HeaderName := ⟨"content-type".toList, by decide⟩
    response.status = (handling.ops.findSome? implied?).getD
      (match handling.ending with
        | .returns () => ⟨200, by decide⟩
        | .panics _ => ⟨500, by decide⟩) ∧
    response.body = handling.ops.flatMap WriterOp.bytes ++
      (match handling.ending with
        | .returns () => []
        | .panics p => Text.Utf8.ofString p.payload.message) ∧
    (handling.ending = .returns () → response.headers = edited handling.ops []) ∧
    (∀ p, handling.ending = .panics p →
      (response.headers.getAll contentType).map (·.bytes) =
        ["text/plain; charset=utf-8".toList.map fun c => UInt8.ofNat c.toNat] ∧
      ∀ name, name ≠ contentType →
        response.headers.getAll name = Http.Headers.getAll (edited handling.ops []) name) ∧
    ∀ before status after, handling.ops = before ++ .writeHeader status :: after →
      (before.findSome? implied?).isSome = true → ∀ other : Service,
        other.interceptor = s.interceptor →
        other.handler req span = { handling with ops := before ++ after } →
          (other.call head body h).1.response = response := by
  intro req span handling response contentType
  have hresponse : response = handling.response := by
    rw [← s.response_reply req span hresponder, ← s.call_fst hread h]
  refine ⟨?_, ?_, ?_, ?_, ?_⟩
  · rw [hresponse, Handling.response]
    cases handling.ending <;> rfl
  · rw [hresponse, Handling.response]
    cases handling.ending with
    | returns value => exact (List.append_nil _).symm
    | panics p => rfl
  · intro hending
    rw [hresponse]
    simp only [Handling.response, hending]
  · intro p hending
    rw [hresponse]
    simp only [Handling.response, hending]
    refine ⟨?_, fun name hname => Http.Headers.getAll_insert_of_ne hname ..⟩
    rw [show contentType = .contentType from rfl, Http.Headers.getAll_insert_self]
    rfl
  · intro before status after hops hbefore other hinterceptor hhandler
    rw [hresponse, ← Handling.response_of_superfluous hops hbefore, ← hhandler,
      ← other.response_reply req span (hinterceptor ▸ hresponder), other.call_fst hread h,
      hinterceptor]

/-- The handler writes before it names a status, and panics after that. -/
theorem response_content_half_written :
    let s : Service :=
      { interceptor := ⟨.unreached, 500, .standard, .seeded 0⟩
        handler := fun _ _ =>
          ⟨[.setHeader .contentType .json, .write [104, 105] none, .writeHeader .notFound],
            .panics ⟨.literal "boom", ""⟩, ⟨0⟩⟩
        worker := fun _ => "" }
    let body : IncomingBody := ⟨[[1], [2]], none⟩
    let response := (s.call ⟨"GET", ⟨"/"⟩, [], []⟩ body (.fresh "")).1.response
    body.failure = none ∧ s.interceptor.responder = .standard ∧ response.status.code = 200 ∧
      response.body = [104, 105, 98, 111, 111, 109] ∧
      (response.headers.getAll .contentType).map (·.bytes) =
        ["text/plain; charset=utf-8".toList.map fun c => UInt8.ofNat c.toNat] := by
  intro s body response
  obtain ⟨hstatus, hbody, -, hheaders, -⟩ :=
    s.response_content ⟨"GET", ⟨"/"⟩, [], []⟩ body rfl rfl (.fresh "")
  exact ⟨rfl, rfl, congrArg Http.Status.code hstatus, hbody.trans (by decide), (hheaders _ rfl).1⟩

end Service

end Telemetry
