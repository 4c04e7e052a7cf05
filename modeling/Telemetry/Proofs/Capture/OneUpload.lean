import Telemetry.Proofs.Capture.Lossless
import Telemetry.Proofs.Client.Sending

/-!
A capture ends in one upload.

Whether or not there was something to capture, the collector hears of the command once, at the
address of its kind. The profiler is asked for one capture, and for the package only when it has
taken a trace.
-/
namespace Telemetry.Client

/-- A capture ends in one upload. The profiler is asked once for the kind of the command, and for
the package only after it has taken a trace. Whatever it answers, one POST is handed over, at the
address of the collector and with the path of the kind. Its body is an upload for the command with
the bytes that were captured, or with none and marked as ignored if the capture failed; the package
of a trace comes with it. Nothing but the log changes on account of what comes back. -/
theorem ends_in_one_upload {c : Client} {headers : Http.Headers} (hc : c.CanPost headers)
    (id : Int64) (kind : CaptureKind) (h : Host) :
    let captured := c.profiler.capture h.probes kind
    let package := c.profiler.package (h.probes ++ [.capture kind])
    ∃ post upload log,
      (Task.capture c id kind).run h =
        { h with
          probes := h.probes ++ captureProbes kind captured
          posts := h.posts ++ [post]
          log := log } ∧
      post.headers = headers ∧
      post.url = c.config.apiBase ++
        (match kind with
          | .trace => "/uploads/trace/create"
          | .cpuProfile => "/uploads/cpuprofile/create"
          | .memProfile => "/uploads/memprofile/create") ∧
      CaptureUpload.decode post.body = .ok upload ∧
      upload.commandId = id ∧
      (upload.ignored = true ↔ ∃ e, captured = .error e) ∧
      (∀ out, captured = .ok out → upload.out = out) ∧
      (∀ e, captured = .error e → upload.out = []) ∧
      upload.package = packageOf kind captured package ∧
      ((CaptureUpload.member? "Pkg" post.body).isSome = true ↔ upload.package ≠ []) := by
  intro captured package
  let upload : CaptureUpload :=
    ⟨id, captured.toOption.getD [], packageOf kind captured package, !captured.isOk⟩
  let post : Post := ⟨c.config.url (capturePath kind), headers, upload.encode⟩
  let probes := h.probes ++ captureProbes kind captured
  obtain ⟨taken, hupload⟩ := c.captureUpload_eq id kind h
  obtain ⟨log, hpost⟩ := post_unheeded hc upload.encode (c.config.url (capturePath kind))
    { h with probes := probes, log := taken }
  have hrun : (Task.capture c id kind).run h =
      { h with probes := probes, posts := h.posts ++ [post], log := log } := by
    simp only [Task.run, runCapture, hupload]
    exact hpost
  refine ⟨post, upload, log, hrun, rfl, ?_, upload.decode_encode, rfl, ?_, ?_, ?_, rfl, ?_⟩
  · cases kind <;> rfl
  · cases hcaptured : captured with
    | error e => simp [upload, hcaptured, Except.isOk, Except.toBool]
    | ok out => simp [upload, hcaptured, Except.isOk, Except.toBool]
  · intro out hout
    simp only [upload, hout]
    rfl
  · intro e he
    simp only [upload, he]
    rfl
  · rw [Option.isSome_iff_ne_none, Ne, upload.package_member_encode]

/-- A trace with its package, in a process that has taken another capture before. -/
theorem ends_in_one_upload_trace :
    let c : Client := withProfiler ⟨fun _ _ => .ok [1, 2], fun _ => some [3]⟩ unreached
    let h : Host := { Host.fresh "" with probes := [.capture .memProfile] }
    let after := (Task.capture c 7 .trace).run h
    after.probes = [.capture .memProfile, .capture .trace, .package] ∧
      ∃ post upload, after.posts = [post] ∧
        post.url = "https://api.deferpanic.com/v1.17/uploads/trace/create" ∧
        CaptureUpload.decode post.body = .ok upload ∧
        upload.commandId = 7 ∧ upload.out = [1, 2] ∧ upload.package = [3] ∧
        upload.ignored ≠ true := by
  intro c h after
  obtain ⟨headers, hposting, hvalid⟩ := exists_canPost_unreached
  have hc : c.CanPost headers := ⟨hposting, hvalid⟩
  obtain ⟨post, upload, log, hafter, -, hurl, hdecode, hid, hignored, hout, -, hpackage, -⟩ :=
    ends_in_one_upload hc 7 .trace h
  refine ⟨congrArg Host.probes hafter, post, upload, congrArg Host.posts hafter, ?_, hdecode, hid,
    hout [1, 2] rfl, hpackage, ?_⟩
  · rw [hurl]
    decide
  · intro htrue
    obtain ⟨e, he⟩ := hignored.1 htrue
    cases he

end Telemetry.Client
