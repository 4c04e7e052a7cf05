import Telemetry.Client.Send
import Telemetry.Proofs.Text.Trimming

/-!
Clean traces.

Line ends, tabs and NULs are replaced one after the other, each time in the whole trace. None of
the texts put in has a character that is replaced later, so this is one pass over the trace
(`flattenTrace_eq`). What comes out has nothing left to replace, nor has what trimming leaves of it:
a clean trace stays as it is when it is cleaned again.
-/
namespace Telemetry

/-- What stands in a clean trace for a character of the raw one. -/
def traceForm (c : Char) : List Char :=
  match c with
  | '\n' => ['\\', 'n']
  | '\t' => ['\\', 't']
  | '\x00' => [' ']
  | other => [other]

/-- The characters that a clean trace does not have. -/
def traceBreaks : List Char := ['\n', '\t', '\x00']

theorem traceForm_of_not_break {c : Char} (hc : c ∉ traceBreaks) : traceForm c = [c] := by
  simp only [traceBreaks, List.mem_cons, List.not_mem_nil, or_false, not_or] at hc
  obtain ⟨hfeed, htab, hnul⟩ := hc
  unfold traceForm
  split <;> simp_all

theorem not_break_of_mem_traceForm {c d : Char} (hd : d ∈ traceForm c) : d ∉ traceBreaks := by
  by_cases hc : c ∈ traceBreaks
  · have hforms : ∀ c ∈ traceBreaks, ∀ d ∈ traceForm c, d ∉ traceBreaks := by
      simp [traceBreaks, traceForm]
    exact hforms c hc d hd
  · rw [traceForm_of_not_break hc, List.mem_singleton] at hd
    rwa [hd]

theorem replaceChar_flatMap (c : Char) (text : List Char) (f : Char → List Char) (s : List Char) :
    replaceChar c text (s.flatMap f) = s.flatMap fun d => replaceChar c text (f d) :=
  List.flatMap_assoc

/-- The three replacements are one pass. -/
theorem flattenTrace_eq (trace : List Char) : flattenTrace trace = trace.flatMap traceForm := by
  have hpass : replaceChar '\n' ['\\', 'n'] trace =
      trace.flatMap fun d => if d = '\n' then ['\\', 'n'] else [d] := rfl
  rw [flattenTrace, hpass, replaceChar_flatMap, replaceChar_flatMap]
  refine List.flatMap_congr fun c _ => ?_
  by_cases hc : c ∈ traceBreaks
  · have hbreaks : ∀ c ∈ traceBreaks, replaceChar '\x00' [' '] (replaceChar '\t' ['\\', 't']
        (if c = '\n' then ['\\', 'n'] else [c])) = traceForm c := by
      simp [traceBreaks, traceForm, replaceChar]
    exact hbreaks c hc
  · rw [traceForm_of_not_break hc]
    simp only [traceBreaks, List.mem_cons, List.not_mem_nil, or_false, not_or] at hc
    obtain ⟨hfeed, htab, hnul⟩ := hc
    simp [replaceChar, hfeed, htab, hnul]

theorem flattenTrace_of_not_break {trace : List Char} (h : ∀ c ∈ trace, c ∉ traceBreaks) :
    flattenTrace trace = trace := by
  rw [flattenTrace_eq, List.flatMap_congr fun c hc => traceForm_of_not_break (h c hc),
    List.flatMap_singleton']

theorem cleanTrace_eq_iff {trace clean : String} :
    cleanTrace trace = clean ↔ Text.IsCore (trace.toList.flatMap traceForm) clean.toList := by
  rw [← String.toList_inj, cleanTrace, String.toList_ofList, flattenTrace_eq, Text.trim_eq_iff]

theorem isTrimmed_cleanTrace (trace : String) : Text.IsTrimmed (cleanTrace trace).toList :=
  (cleanTrace_eq_iff.1 rfl).trimmed

theorem not_break_of_mem_cleanTrace {trace : String} {c : Char}
    (hc : c ∈ (cleanTrace trace).toList) : c ∉ traceBreaks := by
  rw [cleanTrace, String.toList_ofList, flattenTrace_eq] at hc
  obtain ⟨d, -, hform⟩ := List.mem_flatMap.1 (Text.mem_of_mem_trim hc)
  exact not_break_of_mem_traceForm hform

theorem cleanTrace_cleanTrace (trace : String) :
    cleanTrace (cleanTrace trace) = cleanTrace trace := by
  have hflat : flattenTrace (cleanTrace trace).toList = (cleanTrace trace).toList :=
    flattenTrace_of_not_break fun c hc => not_break_of_mem_cleanTrace hc
  rw [cleanTrace, hflat, Text.trim_of_isTrimmed (isTrimmed_cleanTrace trace), String.ofList_toList]

/-- A clean trace is what is left of the raw one without the white space at its ends, once each line
end is written as a backslash and an n, each tab as a backslash and a t, and each NUL as a space. It
has no line end, tab or NUL, neither begins nor ends with white space, and stays the same when it is
cleaned again. So a report whose body is cleaned again stays the same, and what is shipped with it
does. -/
theorem cleanTrace_clean :
    (∀ trace clean : String,
      cleanTrace trace = clean ↔ Text.IsCore (trace.toList.flatMap traceForm) clean.toList) ∧
    (∀ trace : String, (∀ c ∈ (cleanTrace trace).toList, c ≠ '\n' ∧ c ≠ '\t' ∧ c ≠ '\x00') ∧
      Text.IsTrimmed (cleanTrace trace).toList ∧
      cleanTrace (cleanTrace trace) = cleanTrace trace) ∧
    ∀ (message trace : String) (span : Int64),
      let report := PanicReport.make message trace span
      { report with body := cleanTrace report.body } = report ∧
      ∀ (c : Client) (h : Host),
        c.shipTrace report.body message span h = c.shipTrace trace message span h := by
  refine ⟨fun trace clean => cleanTrace_eq_iff, fun trace => ⟨fun c hc => ?_,
    isTrimmed_cleanTrace trace, cleanTrace_cleanTrace trace⟩, fun message trace span => ?_⟩
  · have hbreak := not_break_of_mem_cleanTrace hc
    simpa only [traceBreaks, List.mem_cons, List.not_mem_nil, or_false, not_or] using hbreak
  · intro report
    have hbody : report.body = cleanTrace trace := rfl
    have hagain : cleanTrace report.body = report.body := by
      rw [hbody, cleanTrace_cleanTrace]
    refine ⟨by rw [hagain], fun c h => ?_⟩
    have hreport : PanicReport.make message report.body span = report := by
      rw [PanicReport.make, hagain]
      rfl
    rw [Client.shipTrace, hreport, Client.shipTrace]

/-- A line end at the end of a trace is kept, white space and NULs are not. -/
example : cleanTrace " \x00\ttrace\n\u2003" = "\\ttrace\\n" := by decide +kernel

end Telemetry
