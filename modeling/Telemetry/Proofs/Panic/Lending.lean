import Mathlib.Data.List.Induction
import Telemetry.Client.Panics
import Telemetry.Proofs.Client.Sending

/-!
Whose backtrace a report carries.

On one thread there are panics, each of which is caught and perhaps swallowed, and reports. A report
may come late or twice, and its payload may have been raised by any panic before it, or by none on
this thread. The slot holds what the last event has left and knows panics by their messages only.
So a report has a backtrace of its own unless the event just before it is a panic that did not raise
its payload but has its message, and then it carries the backtrace of that panic.
-/
namespace Telemetry

/-- What happens on one thread. A panic is named by its place among the events. -/
inductive ThreadEvent where
  | panics (p : Panic)
  /-- A report of a payload that was raised by the panic `origin`, or by none on this thread. A
  backtrace taken on the spot would be `site`. -/
  | reports (payload : Payload) (origin : Option Nat) (site : String)

namespace ThreadEvent

/-- Does an event: the backtrace that it uses if it is a report, and the host. -/
def step (c : Client) (h : Host) : ThreadEvent → Option String × Host
  | .panics p => (none, h.raise p.payload p.backtrace)
  | .reports payload _ site =>
    let (prepared, h) := c.prepare payload { h with site }
    (some prepared.1, h)

/-- The host after events on a new thread, whose slot is empty at first. -/
def after (c : Client) (h : Host) (events : List ThreadEvent) : Host :=
  events.foldl (fun h e => (e.step c h).2) { h with slot := none }

/-- The backtrace that the report at a place carries. -/
def carried? (c : Client) (h : Host) (events : List ThreadEvent) (k : Nat) : Option String :=
  events[k]?.bind fun e => (e.step c (after c h (events.take k))).1

/-- Every report comes after the panic that raised its payload. -/
def Sound (events : List ThreadEvent) : Prop :=
  ∀ (k : Nat) payload n site, events[k]? = some (.reports payload (some n) site) →
    n < k ∧ ∃ p, events[n]? = some (.panics p) ∧ p.payload = payload

/-- A backtrace is the report's own: it was taken on the spot, or when the payload was raised. -/
def IsOwn (events : List ThreadEvent) (origin : Option Nat) (site trace : String) : Prop :=
  trace = site ∨
    ∃ (n : Nat) (p : Panic), origin = some n ∧ events[n]? = some (.panics p) ∧ trace = p.backtrace

/-- No report uses the backtrace of a panic that is not its own, and each leaves the slot empty. -/
def NeverLends (c : Client) (h : Host) (events : List ThreadEvent) : Prop :=
  ∀ (k : Nat) payload origin site, events[k]? = some (.reports payload origin site) →
    (after c h (events.take (k + 1))).slot = none ∧
      ∃ trace, carried? c h events k = some trace ∧ IsOwn events origin site trace

/-- The event just before the report at place `k` is a panic that did not raise the report's payload
but has its message. -/
structure Namesake (events : List ThreadEvent) (k : Nat) (payload : Payload) (origin : Option Nat)
    (n : Nat) (p : Panic) : Prop where
  before : k = n + 1
  panic : events[n]? = some (.panics p)
  other : origin ≠ some n
  message : p.payload.message = payload.message

/-- What an event leaves in the slot. -/
def leaves : ThreadEvent → BacktraceSlot String
  | .panics p => .raise p.payload p.backtrace
  | .reports .. => none

theorem slot_prepare (c : Client) (payload : Payload) (h : Host) :
    (c.prepare payload h).2.slot = none := by
  have htake := h.slot.take_snd payload.message h.site
  unfold Client.prepare
  cases c.config.printPanics <;> exact htake

theorem slot_step (c : Client) (h : Host) (e : ThreadEvent) : (e.step c h).2.slot = e.leaves := by
  cases e with
  | panics p => rfl
  | reports payload origin site => exact slot_prepare c payload { h with site }

theorem after_append_singleton (c : Client) (h : Host) (events : List ThreadEvent)
    (e : ThreadEvent) : after c h (events ++ [e]) = (e.step c (after c h events)).2 := by
  rw [after, List.foldl_append]
  rfl

/-- The slot knows of the last event only. -/
theorem slot_after (c : Client) (h : Host) (events : List ThreadEvent) :
    (after c h events).slot = events.getLast?.bind leaves := by
  induction events using List.reverseRecOn with
  | nil => rfl
  | append_singleton events e _ =>
    rw [after_append_singleton, slot_step, List.getLast?_concat]
    rfl

theorem slot_after_take (c : Client) (h : Host) {events : List ThreadEvent} {k : Nat}
    {e : ThreadEvent} (hk : events[k]? = some e) :
    (after c h (events.take (k + 1))).slot = e.leaves := by
  rw [slot_after, List.take_add_one, hk, Option.toList_some, List.getLast?_concat]
  rfl

theorem carried?_of_report (c : Client) (h : Host) {events : List ThreadEvent} {k : Nat}
    {payload : Payload} {origin : Option Nat} {site : String}
    (hk : events[k]? = some (.reports payload origin site)) :
    carried? c h events k =
      some ((after c h (events.take k)).slot.take payload.message site).1 := by
  rw [carried?, hk]
  rfl

/-- A report leaves the slot empty. It carries a backtrace of its own if there is no namesake just
before it, and the namesake's otherwise. -/
theorem backtrace_of_report (c : Client) (h : Host) {events : List ThreadEvent} {k : Nat}
    {payload : Payload} {origin : Option Nat} {site : String}
    (hk : events[k]? = some (.reports payload origin site)) :
    (after c h (events.take (k + 1))).slot = none ∧
      ∃ trace, carried? c h events k = some trace ∧
        (((∀ n p, ¬ Namesake events k payload origin n p) ∧ IsOwn events origin site trace) ∨
          ∃ n p, Namesake events k payload origin n p ∧ trace = p.backtrace) := by
  refine ⟨slot_after_take c h hk, _, carried?_of_report c h hk, ?_⟩
  cases k with
  | zero =>
    refine Or.inl ⟨?_, Or.inl rfl⟩
    intro n p hn
    cases hn.before
  | succ n =>
    have hlt : n < events.length := by
      have hlast := (List.getElem?_eq_some_iff.1 hk).1
      omega
    have hn : events[n]? = some events[n] := List.getElem?_eq_getElem hlt
    rw [slot_after_take c h hn]
    cases hevent : events[n] with
    | reports other source there =>
      rw [hevent] at hn
      refine Or.inl ⟨?_, Or.inl rfl⟩
      intro m p hm
      cases hm.before
      cases hn.symm.trans hm.panic
    | panics p =>
      rw [hevent] at hn
      simp only [leaves, BacktraceSlot.raise, BacktraceSlot.take]
      by_cases hmessage : p.payload.message = payload.message
      · rw [if_pos hmessage]
        by_cases horigin : origin = some n
        · refine Or.inl ⟨?_, Or.inr ⟨n, p, horigin, hn, rfl⟩⟩
          intro m q hm
          cases hm.before
          exact hm.other horigin
        · exact Or.inr ⟨n, p, ⟨rfl, hn, horigin, hmessage⟩, rfl⟩
      · rw [if_neg hmessage]
        refine Or.inl ⟨?_, Or.inl rfl⟩
        intro m q hm
        cases hm.before
        cases hn.symm.trans hm.panic
        exact hmessage hm.message

/-- Two panics share a message, and the first one is reported late. -/
theorem backtrace_of_report_late :
    let events : List ThreadEvent :=
      [.panics ⟨.literal "boom", "first"⟩, .panics ⟨.owned "boom", "second"⟩,
        .reports (.literal "boom") (some 0) "here"]
    events[2]? = some (.reports (.literal "boom") (some 0) "here") ∧
      carried? .unreached (.fresh "") events 2 = some "second" := by
  intro events
  have hlate : events[2]? = some (.reports (.literal "boom") (some 0) "here") := rfl
  obtain ⟨-, trace, htrace, ⟨hno, -⟩ | ⟨n, p, hn, rfl⟩⟩ :=
    backtrace_of_report .unreached (.fresh "") hlate
  · exact absurd ⟨rfl, rfl, by decide, rfl⟩ (hno 1 ⟨.owned "boom", "second"⟩)
  · cases hn.before
    cases hn.panic
    exact ⟨hlate, htrace⟩

/-- A panic that was swallowed lends its backtrace to a payload which no panic raised. Neither of
them is a text, so they have one message. -/
theorem not_neverLends :
    ¬ ∀ (c : Client) (h : Host) (events : List ThreadEvent),
      Sound events → NeverLends c h events := by
  intro hall
  have hsound : Sound [.panics ⟨.foreign 1, "swallowed"⟩, .reports (.foreign 2) none "here"] := by
    intro k payload n site hk
    match k with
    | 0 | 1 | _ + 2 => cases hk
  obtain ⟨-, trace, htrace, hown⟩ := hall .unreached (.fresh "") _ hsound 1 _ _ _ rfl
  cases htrace
  rcases hown with hhere | ⟨n, p, horigin, -⟩
  · exact absurd hhere (by decide)
  · cases horigin

end ThreadEvent

end Telemetry
