import Telemetry.Response.Buffer
import Telemetry.Response.Tracer

/-!
What operations on a response come to.

A response is what the operations say whatever they are performed on: the status that the first of
them implies, the headers as they were edited and the bytes that were written. A tracer hands all of
them on and has seen the last status.
-/
namespace Telemetry

namespace WriterOp

/-- The status that an operation gives to a response that has none. -/
def implied? : WriterOp → Option Http.Status
  | .edit _ => none
  | .write .. => some ⟨200, Http.Status.ok.three_digits⟩
  | .writeHeader status => some status

/-- The status that an operation names. -/
def named? : WriterOp → Option Http.Status
  | .edit _ | .write .. => none
  | .writeHeader status => some status

def bytes : WriterOp → Bytes
  | .write bytes _ => bytes
  | _ => []

def change : WriterOp → Http.Headers → Http.Headers
  | .edit change => change
  | _ => id

/-- The status of a new response after operations. -/
def impliedBy? (ops : List WriterOp) : Option Http.Status :=
  ops.findSome? implied?

def written (ops : List WriterOp) : Bytes :=
  ops.flatMap bytes

def edited (ops : List WriterOp) (headers : Http.Headers) : Http.Headers :=
  ops.foldl (fun headers op => op.change headers) headers

/-- The last status that operations name. -/
def lastNamed? (ops : List WriterOp) : Option Http.Status :=
  (ops.filterMap named?).getLast?

/-- The status that a tracer has seen in the end: the last one that was named, 200 if operations
only write and zero if they do not even that. -/
def observed (ops : List WriterOp) : UInt16 :=
  match lastNamed? ops, impliedBy? ops with
  | some status, _ => status.code
  | none, some _ => 200
  | none, none => 0

theorem impliedBy?_cons (op : WriterOp) (ops : List WriterOp) :
    impliedBy? (op :: ops) = op.implied?.or (impliedBy? ops) := by
  rw [impliedBy?, List.findSome?_cons]
  cases op.implied? <;> rfl

theorem lastNamed?_cons (op : WriterOp) (ops : List WriterOp) :
    lastNamed? (op :: ops) = (lastNamed? ops).or op.named? := by
  unfold lastNamed?
  cases hnamed : op.named? with
  | none => rw [List.filterMap_cons_none hnamed, Option.or_none]
  | some status =>
    rw [List.filterMap_cons_some hnamed, List.getLast?_cons]
    cases (ops.filterMap named?).getLast? <;> rfl

end WriterOp

open WriterOp

variable {σ : Type}

theorem Http.Status.code_ne_zero (status : Http.Status) : status.code ≠ 0 := by
  intro hzero
  have hlow := status.three_digits.1
  rw [hzero] at hlow
  exact absurd hlow (by decide)

namespace Writer

variable (w : Writer σ)

/-- An operation on a tracer is the same operation on the writer that it wraps. -/
theorem perform_traced (op : WriterOp) (t : Traced σ) :
    (w.traced.perform op t).1.1 = (w.perform op t.inner).1.1 ∧
      (w.traced.perform op t).1.2.inner = (w.perform op t.inner).1.2 ∧
      (w.traced.perform op t).2 = (w.perform op t.inner).2 := by
  cases op with
  | edit change => exact ⟨rfl, rfl, rfl⟩
  | writeHeader status => exact ⟨rfl, rfl, rfl⟩
  | write bytes note =>
    have hinner : t.beginWrite.inner = t.inner := by
      unfold Traced.beginWrite
      split <;> rfl
    simp only [perform, traced, hinner]
    rcases w.write bytes t.inner with ⟨⟨error | count, s⟩, lines⟩ <;> exact ⟨rfl, rfl, rfl⟩

/-- A writer does under a tracer what it does without. -/
theorem performAll_traced (ops : List WriterOp) (t : Traced σ) :
    (w.traced.performAll ops t).results = (w.performAll ops t.inner).results ∧
      (w.traced.performAll ops t).state.inner = (w.performAll ops t.inner).state ∧
      (w.traced.performAll ops t).lines = (w.performAll ops t.inner).lines := by
  induction ops generalizing t with
  | nil => exact ⟨rfl, rfl, rfl⟩
  | cons op ops ih =>
    obtain ⟨hresult, hinner, hlines⟩ := w.perform_traced op t
    obtain ⟨hresults, hstate, hmore⟩ := ih (w.traced.perform op t).1.2
    rw [hinner] at hresults hstate hmore
    simp only [performAll, hresult, hlines, hresults, hstate, hmore, and_self]

/-- What a tracer remembers of an operation. -/
theorem status_perform_traced (op : WriterOp) (t : Traced σ) :
    (w.traced.perform op t).1.2.status =
      match op with
      | .edit _ => t.status
      | .write .. => if t.status = 0 then 200 else t.status
      | .writeHeader status => status.code := by
  cases op with
  | edit change => rfl
  | writeHeader status => rfl
  | write bytes note =>
    have hbegin : t.beginWrite.status = if t.status = 0 then 200 else t.status := by
      unfold Traced.beginWrite
      split <;> rfl
    simp only [perform, traced, ← hbegin]
    rcases w.write bytes t.beginWrite.inner with ⟨⟨error | count, s⟩, lines⟩ <;> rfl

/-- Once a tracer has seen a status, only those that are named count. -/
theorem status_performAll_traced (ops : List WriterOp) {t : Traced σ} (ht : t.status ≠ 0) :
    (w.traced.performAll ops t).state.status =
      ((lastNamed? ops).map Http.Status.code).getD t.status := by
  induction ops generalizing t with
  | nil => rfl
  | cons op ops ih =>
    have hseen := w.status_perform_traced op t
    change (w.traced.performAll ops (w.traced.perform op t).1.2).state.status = _
    rw [lastNamed?_cons]
    cases op with
    | edit change =>
      rw [ih (hseen ▸ ht), hseen, named?, Option.or_none]
    | write bytes note =>
      simp only [if_neg ht] at hseen
      rw [ih (hseen ▸ ht), hseen, named?, Option.or_none]
    | writeHeader status =>
      rw [ih (hseen ▸ status.code_ne_zero), hseen, named?]
      cases lastNamed? ops <;> rfl

theorem status_traced (ops : List WriterOp) (s : σ) :
    (w.traced.performAll ops (.start s)).state.status = observed ops := by
  have hfirst : ∀ t : Traced σ, t.status = 0 →
      (w.traced.performAll ops t).state.status = observed ops := by
    induction ops with
    | nil => exact fun t ht => ht
    | cons op ops ih =>
      intro t ht
      have hseen := w.status_perform_traced op t
      change (w.traced.performAll ops (w.traced.perform op t).1.2).state.status = _
      rw [observed, lastNamed?_cons, impliedBy?_cons]
      cases op with
      | edit change =>
        rw [ih _ (hseen.trans ht), named?, Option.or_none, implied?, Option.none_or, observed]
      | write bytes note =>
        simp only [if_pos ht] at hseen
        rw [w.status_performAll_traced ops (hseen ▸ by decide), hseen, named?, Option.or_none]
        cases lastNamed? ops <;> rfl
      | writeHeader status =>
        rw [w.status_performAll_traced ops (hseen ▸ status.code_ne_zero), hseen, named?]
        cases lastNamed? ops <;> rfl
  exact hfirst _ rfl

end Writer

namespace BufferedResponse

/-- One operation on a buffer. -/
theorem perform_writer (op : WriterOp) (b : BufferedResponse) :
    (writer.perform op b).1.2 =
      ⟨b.status.or op.implied?, op.change b.headers, b.body ++ op.bytes⟩ := by
  obtain ⟨status, headers, body⟩ := b
  cases op <;> cases status <;>
    simp [Writer.perform, writer, implied?, change, WriterOp.bytes, Http.Status.ok]

/-- Operations on a buffer: a status that it has stays, and the bytes come after those that are
there. -/
theorem performAll_writer (ops : List WriterOp) (b : BufferedResponse) :
    (writer.performAll ops b).state =
      ⟨b.status.or (impliedBy? ops), edited ops b.headers, b.body ++ written ops⟩ := by
  induction ops generalizing b with
  | nil =>
    have hstatus : b.status.or none = b.status := Option.or_none
    have hbody : b.body ++ [] = b.body := List.append_nil _
    change b = ⟨b.status.or none, b.headers, b.body ++ []⟩
    rw [hstatus, hbody]
  | cons op ops ih =>
    change (writer.performAll ops (writer.perform op b).1.2).state = _
    rw [ih, perform_writer, impliedBy?_cons, Option.or_assoc, List.append_assoc]
    rfl

end BufferedResponse

end Telemetry
