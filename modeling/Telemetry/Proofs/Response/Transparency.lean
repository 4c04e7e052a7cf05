import Mathlib.Algebra.GroupWithZero.Nat
import Telemetry.Proofs.Response.Operations

/-!
Watching a writer does not disturb it.

Under a tracer a writer goes through the states that it goes through without, whatever writer it is:
it may take fewer bytes than it is given, refuse them, or log what it likes. The tracer counts the
bytes that were taken, and a refused write leaves its count as it was.
-/
namespace Telemetry

/-- The bytes that an operation says were taken. -/
def OpResult.taken : OpResult → Nat
  | .wrote count => count
  | .done | .refused _ => 0

/-- The bytes that operations say were taken. -/
def OpResult.total (results : List OpResult) : Nat :=
  (results.map taken).sum

variable {σ : Type}

namespace Writer

variable (w : Writer σ)

theorem size_perform_traced (op : WriterOp) (t : Traced σ) :
    (w.traced.perform op t).1.2.size = t.size + (w.perform op t.inner).1.1.taken := by
  cases op with
  | edit change => rfl
  | writeHeader status => rfl
  | write bytes note =>
    have hbegin : t.beginWrite.inner = t.inner ∧ t.beginWrite.size = t.size := by
      unfold Traced.beginWrite
      split <;> exact ⟨rfl, rfl⟩
    simp only [perform, traced, hbegin.1, hbegin.2]
    rcases w.write bytes t.inner with ⟨⟨error | count, s⟩, lines⟩ <;> rfl

theorem size_performAll_traced (ops : List WriterOp) (t : Traced σ) :
    (w.traced.performAll ops t).state.size =
      t.size + OpResult.total (w.performAll ops t.inner).results := by
  induction ops generalizing t with
  | nil => rfl
  | cons op ops ih =>
    have hsize := w.size_perform_traced op t
    obtain ⟨-, hinner, -⟩ := w.perform_traced op t
    calc (w.traced.performAll (op :: ops) t).state.size
        = (w.traced.performAll ops (w.traced.perform op t).1.2).state.size := rfl
      _ = t.size + ((w.perform op t.inner).1.1.taken +
            OpResult.total (w.performAll ops (w.perform op t.inner).1.2).results) := by
          rw [ih, hinner, hsize, Nat.add_assoc]
      _ = t.size + OpResult.total (w.performAll (op :: ops) t.inner).results := rfl

theorem size_traced (ops : List WriterOp) (s : σ) :
    (w.traced.performAll ops (.start s)).state.size =
      OpResult.total (w.performAll ops s).results :=
  (w.size_performAll_traced ops (.start s)).trans (Nat.zero_add _)

theorem performAll_append (ops more : List WriterOp) (s : σ) :
    (w.performAll (ops ++ more) s).results = (w.performAll ops s).results ++
        (w.performAll more (w.performAll ops s).state).results ∧
      (w.performAll (ops ++ more) s).state =
        (w.performAll more (w.performAll ops s).state).state := by
  induction ops generalizing s with
  | nil => exact ⟨rfl, rfl⟩
  | cons op ops ih =>
    obtain ⟨hresults, hstate⟩ := ih (w.perform op s).1.2
    exact ⟨congrArg _ hresults, hstate⟩

end Writer

/-- A buffer takes all that it is given. -/
theorem BufferedResponse.total_performAll_writer (ops : List WriterOp) (b : BufferedResponse) :
    OpResult.total (writer.performAll ops b).results = (WriterOp.written ops).length := by
  induction ops generalizing b with
  | nil => rfl
  | cons op ops ih =>
    have htaken : (writer.perform op b).1.1.taken = op.bytes.length := by
      obtain ⟨status, headers, body⟩ := b
      cases op <;> cases status <;> rfl
    calc OpResult.total (writer.performAll (op :: ops) b).results
        = (writer.perform op b).1.1.taken +
            OpResult.total (writer.performAll ops (writer.perform op b).1.2).results := rfl
      _ = (WriterOp.written (op :: ops)).length := by
          rw [ih, htaken, WriterOp.written, WriterOp.written, List.flatMap_cons, List.length_append]

namespace Writer

/-- A tracer is transparent. Operations leave the writer that it wraps as they would have left it
alone, they come to the same results and the same lines in the log, and the headers that are seen
are the same. The tracer has counted the bytes that were taken; a write that is refused does not
count. On a buffer that was empty that count is the length of the body. -/
theorem transparent (w : Writer σ) (ops : List WriterOp) (s : σ) :
    let bare := w.performAll ops s
    let watched := w.traced.performAll ops (.start s)
    watched.state.inner = bare.state ∧
    watched.results = bare.results ∧
    watched.lines = bare.lines ∧
    w.traced.headers watched.state = w.headers bare.state ∧
    watched.state.size = OpResult.total bare.results ∧
    (∀ bytes note e, (w.perform (.write bytes note) bare.state).1.1 = .refused e →
      let more := w.traced.performAll (ops ++ [.write bytes note]) (.start s)
      more.results = bare.results ++ [.refused e] ∧ more.state.size = watched.state.size) ∧
    (let response := (BufferedResponse.writer.traced.performAll ops (.start .empty)).state
     response.size = response.inner.toResponse.body.length) := by
  intro bare watched
  obtain ⟨hresults, hinner, hlines⟩ := w.performAll_traced ops (.start s)
  have hsize : watched.state.size = OpResult.total bare.results := w.size_traced ops s
  refine ⟨hinner, hresults, hlines, congrArg w.headers hinner, hsize, ?_, ?_⟩
  · intro bytes note e hrefused more
    have hone : (w.performAll [.write bytes note] bare.state).results = [.refused e] :=
      congrArg (fun result => [result]) hrefused
    have hboth : (w.performAll (ops ++ [.write bytes note]) s).results =
        bare.results ++ [.refused e] := by
      rw [(w.performAll_append ops _ s).1, hone]
    constructor
    · exact (w.performAll_traced _ (.start s)).1.trans hboth
    · have hmore : more.state.size =
          OpResult.total (w.performAll (ops ++ [.write bytes note]) s).results :=
        w.size_traced _ s
      rw [hmore, hsize, hboth, OpResult.total, OpResult.total, List.map_append, List.sum_append]
      rfl
  · intro response
    have htaken : response.size = (WriterOp.written ops).length := by
      rw [BufferedResponse.writer.size_traced, BufferedResponse.total_performAll_writer]
    have hbuffer : response.inner.body = WriterOp.written ops := by
      rw [(BufferedResponse.writer.performAll_traced ops (.start .empty)).2.1,
        BufferedResponse.performAll_writer]
      rfl
    rw [htaken, ← hbuffer]
    rfl

/-- A writer takes two bytes at a time and breaks down at the third write. -/
theorem transparent_refused :
    let w : Writer Nat :=
      { headers := fun _ => []
        setHeaders := fun _ writes => writes
        write := fun _ writes =>
          if writes < 2 then ((.ok 2, writes + 1), [])
          else ((.error ⟨"BrokenPipe", "closed"⟩, writes + 1), [])
        writeHeader := fun _ writes => (writes, []) }
    let ops : List WriterOp := [.write [1, 2, 3] none, .writeHeader .notFound, .write [3, 4] none]
    let watched := w.traced.performAll ops (.start 0)
    let more := w.traced.performAll (ops ++ [.write [5] none]) (.start 0)
    (w.perform (.write [5] none) (w.performAll ops 0).state).1.1 =
        .refused ⟨"BrokenPipe", "closed"⟩ ∧
      more.results = [.wrote 2, .done, .wrote 2, .refused ⟨"BrokenPipe", "closed"⟩] ∧
      watched.state.size = 4 ∧ more.state.size = watched.state.size := by
  intro w ops watched more
  obtain ⟨-, -, -, -, hsize, hrefused, -⟩ := w.transparent ops 0
  obtain ⟨hresults, hmore⟩ := hrefused [5] none ⟨"BrokenPipe", "closed"⟩ rfl
  exact ⟨rfl, hresults, hsize, hmore⟩

end Writer

end Telemetry
