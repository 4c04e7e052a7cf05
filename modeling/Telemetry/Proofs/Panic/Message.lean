import Telemetry.Panic.Payload
import Telemetry.Proofs.Text.Quoted

/-!
What a report message shows of the message of a panic.

It is one printable line. Nothing of the message is lost in it but the quotes: two messages that
have none are told apart by what is reported.
-/
namespace Telemetry.Payload

open Text Quoted

theorem toList_reportMessage (p : Payload) :
    p.reportMessage.toList = unquote p.message.toList :=
  String.toList_ofList

/-- A report message is one printable line: it has no quotes, and each of its characters is one that
is written as itself or the backslash of an escape, so none is a control or ends a line. Messages
are reported piece by piece, and a message that needs no escape is reported as it is. Messages
without quotes are told apart. -/
theorem reportMessage_legible :
    (∀ p : Payload, ∀ c ∈ p.reportMessage.toList,
      c ≠ '\"' ∧ (IsPlain c ∨ c = '\\') ∧ ¬ IsControl c ∧ c ∉ lineEnds) ∧
    (∀ p q r : Payload, r.message = p.message ++ q.message →
      r.reportMessage = p.reportMessage ++ q.reportMessage) ∧
    (∀ p : Payload, (∀ c ∈ p.message.toList, IsPlain c) → p.reportMessage = p.message) ∧
    ∀ p q : Payload, '\"' ∉ p.message.toList → '\"' ∉ q.message.toList →
      p.reportMessage = q.reportMessage → p.message = q.message := by
  refine ⟨?_, ?_, ?_, ?_⟩
  · intro p c hc
    rw [toList_reportMessage] at hc
    obtain ⟨hquote, hsigns⟩ := mem_unquote hc
    have hshown : isHidden c = false := by
      rcases hsigns with hplain | rfl
      · exact (isPlain_iff.1 hplain).2.2
      · exact isHidden_of_ascii (by decide) (by decide)
    refine ⟨hquote, hsigns, fun hcontrol => ?_, fun hend => ?_⟩
    · cases (isHidden_of_isControl hcontrol).symm.trans hshown
    · cases (isHidden_of_mem_lineEnds c hend).symm.trans hshown
  · intro p q r hr
    rw [reportMessage, hr, String.toList_append, unquote_append, String.ofList_append]
    rfl
  · intro p hplain
    rw [reportMessage, unquote_of_plain hplain, String.ofList_toList]
  · intro p q hp hq h
    have hlists := congrArg String.toList h
    rw [toList_reportMessage, toList_reportMessage] at hlists
    exact String.toList_inj.1 (eq_of_unquote_eq hp hq hlists)

/-- A line feed and the two characters that stand for it are told apart. -/
theorem reportMessage_legible_feeds :
    let fed : Payload := .literal "fed\n"
    let spelt : Payload := .owned "fed\\n"
    let both : Payload := .owned "fed\nfed\\n"
    both.reportMessage = fed.reportMessage ++ spelt.reportMessage ∧
      fed.reportMessage ≠ spelt.reportMessage ∧
      (foreign 7).reportMessage = "Box<dyn Any>" := by
  intro fed spelt both
  obtain ⟨-, happend, hplain, hinj⟩ := reportMessage_legible
  refine ⟨happend fed spelt both rfl, fun h => ?_, hplain (foreign 7) ?_⟩
  · exact absurd (hinj fed spelt (by decide) (by decide) h) (by decide)
  · have hascii : ((foreign 7).message.toList.all fun c =>
        (0x20 ≤ c.toNat ∧ c.toNat < 0x7F) ∧ c ≠ '\"' ∧ c ≠ '\\') = true := by decide
    intro c hc
    obtain ⟨⟨hlow, hhigh⟩, hquote, hbackslash⟩ :=
      of_decide_eq_true (List.all_eq_true.1 hascii c hc)
    exact isPlain_of_ascii hlow hhigh hquote hbackslash

end Telemetry.Payload
