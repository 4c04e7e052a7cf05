import Mathlib.Data.List.TakeWhile
import Telemetry.Proofs.Client.Sending
import Telemetry.Request.Demo
import Telemetry.Server.Serve

/-!
The course of the server loop.

The events that let the loop go on start tasks and see them off. As long as only such events come,
each connection has one task, and each task is running or has finished once (`Loop.Tracks`). The
first other event settles how the loop ends, and nothing that comes later makes a difference.
-/
namespace Telemetry.Server

variable {κ : Type}

namespace Event

/-- Whether the loop goes on after an event. Of the failures to accept a connection it passes over
three, and no other. -/
def isPassing : Event κ → Bool
  | .accepted .. | .connectionEnded _ | .connectionFailed .. => true
  | .acceptFailed .aborted | .acceptFailed .reset | .acceptFailed .refused => true
  | .acceptFailed (.other _) => false
  | .flusherEnded _ | .cancelled => false

theorem isPassing_acceptFailed (error : AcceptError) :
    (acceptFailed error : Event κ).isPassing = error.isPassing := by
  cases error <;> rfl

/-- How the loop ends with an event that it does not pass over. -/
def verdict : Event κ → Except ServeError Unit
  | .acceptFailed error => .error (.accept error)
  | .flusherEnded _ => .error .flusherEnded
  | _ => .ok ()

def connection? : Event κ → Option κ
  | .accepted connection _ => some connection
  | _ => none

/-- The task that has come to its end. -/
def ended? : Event κ → Option Nat
  | .connectionEnded task => some task
  | _ => none

/-- The task that has finished, whether it came to its end or not. -/
def finished? : Event κ → Option Nat
  | .connectionEnded task | .connectionFailed task _ => some task
  | _ => none

/-- What is gathered from events does not grow with one that has nothing of the kind. -/
theorem filterMap_snoc_none {β : Type} {f : Event κ → Option β} {e : Event κ} (he : f e = none)
    (past : List (Event κ)) : (past ++ [e]).filterMap f = past.filterMap f := by
  rw [List.filterMap_append, List.filterMap_cons_none he]
  exact List.append_nil _

/-- The events until the loop ends. -/
def passed (events : List (Event κ)) : List (Event κ) :=
  events.takeWhile isPassing

/-- The event that ends the loop. -/
def deciding? (events : List (Event κ)) : Option (Event κ) :=
  events.find? fun e => !e.isPassing

theorem passed_cases (events : List (Event κ)) :
    (passed events = events ∧ deciding? events = none ∧ ∀ e ∈ events, e.isPassing = true) ∨
      ∃ e later, events = passed events ++ e :: later ∧ deciding? events = some e ∧
        e.isPassing = false := by
  cases hrest : events.dropWhile isPassing with
  | nil =>
    have hall : ∀ e ∈ events, e.isPassing = true := List.dropWhile_eq_nil_iff.1 hrest
    refine Or.inl ⟨List.takeWhile_eq_self_iff.2 hall, List.find?_eq_none.2 ?_, hall⟩
    intro e he
    rw [hall e he]
    exact Bool.false_ne_true
  | cons e later =>
    have hfirst : deciding? events = some e := by
      rw [deciding?, List.find?_eq_head?_dropWhile_not]
      simp only [Bool.not_not, hrest, List.head?_cons]
    have hstops := List.find?_some (p := fun e : Event κ => !e.isPassing) hfirst
    refine Or.inr ⟨e, later, ?_, hfirst, by simpa using hstops⟩
    rw [passed, ← hrest, List.takeWhile_append_dropWhile]

theorem verdict_eq_ok {e : Event κ} (he : e.isPassing = false) :
    e.verdict = .ok () ↔ e = .cancelled := by
  cases e with
  | accepted | connectionEnded | connectionFailed => cases he
  | acceptFailed | flusherEnded | cancelled => simp [verdict]

theorem verdict_eq_error (e : Event κ) (error : ServeError) :
    e.verdict = .error error ↔
      (∃ why, e = .acceptFailed why ∧ error = .accept why) ∨
        ∃ how, e = .flusherEnded how ∧ error = .flusherEnded := by
  cases e <;> simp [verdict, eq_comm]

end Event

namespace Loop

/-- Events that can come one after the other. -/
def Admits (l : Loop κ) : List (Event κ) → Prop
  | [] => True
  | e :: rest => (l.result = none → l.offers e = true) ∧ (l.step e).1.Admits rest

theorem step_of_going {l : Loop κ} (hl : l.result = none) (e : Event κ) :
    (l.step e).1 = (l.take e).1 := by
  simp only [step, hl]

/-- An event that the loop does not pass over ends it, and its tasks with it. The flusher is aborted
if the loop was cancelled. -/
theorem take_of_not_passing (l : Loop κ) {e : Event κ} (he : e.isPassing = false) :
    (l.take e).1.result = some e.verdict ∧ (l.take e).1.running = [] ∧
      (l.take e).1.connections = l.connections ∧
      (l.take e).1.flusherAborted = (l.flusherAborted || e.verdict matches .ok ()) := by
  cases e with
  | accepted | connectionEnded | connectionFailed => cases he
  | acceptFailed error =>
    have herror : error.isPassing = false := Event.isPassing_acceptFailed error ▸ he
    simp [take, herror, stop, Event.verdict]
  | flusherEnded how => simp [take, stop, Event.verdict]
  | cancelled => simp [take, stop, Event.verdict]

/-- A loop that goes on after some events: the connections accepted so far, and a task for each of
them, which is running or has finished once. -/
structure Tracks (l : Loop κ) (past : List (Event κ)) : Prop where
  going : l.result = none
  flusher : l.flusherAborted = false
  connections : l.connections = past.filterMap Event.connection?
  tasks : (l.running ++ past.filterMap Event.finished?).Perm (List.range l.connections.length)

theorem tracks_start : (start : Loop κ).Tracks [] :=
  ⟨rfl, rfl, rfl, .refl _⟩

namespace Tracks

variable {l : Loop κ} {past : List (Event κ)}

theorem lt_of_running (h : l.Tracks past) {task : Nat} (ht : task ∈ l.running) :
    task < l.connections.length :=
  List.mem_range.1 (h.tasks.mem_iff.1 (List.mem_append_left _ ht))

/-- A connection gets the next number, and that task runs. -/
theorem accepted (h : l.Tracks past) (connection : κ) (peer : String) :
    (l.give connection).Tracks (past ++ [.accepted connection peer]) where
  going := h.going
  flusher := h.flusher
  connections := by
    rw [List.filterMap_append, ← h.connections]
    rfl
  tasks := by
    have hfinished : (past ++ [Event.accepted connection peer]).filterMap Event.finished? =
        past.filterMap Event.finished? := Event.filterMap_snoc_none rfl past
    change ((l.running ++ [l.connections.length]) ++ _).Perm
      (List.range (l.connections ++ [connection]).length)
    rw [hfinished, List.length_append, List.length_singleton, List.range_succ, List.append_assoc]
    exact (List.perm_append_comm.append_left l.running).trans
      ((List.append_assoc .. ▸ h.tasks.append_right _))

/-- A task that finishes runs no longer. -/
theorem finished (h : l.Tracks past) {e : Event κ} {task : Nat} (ht : task ∈ l.running)
    (hconnection : e.connection? = none) (hfinished : e.finished? = some task) :
    ({ l with running := l.running.erase task } : Loop κ).Tracks (past ++ [e]) where
  going := h.going
  flusher := h.flusher
  connections := h.connections.trans (Event.filterMap_snoc_none hconnection past).symm
  tasks := by
    rw [List.filterMap_append, List.filterMap_cons_some hfinished]
    have hmoved : (l.running.erase task ++ (past.filterMap Event.finished? ++ [task])).Perm
        (task :: l.running.erase task ++ past.filterMap Event.finished?) := by
      rw [← List.append_assoc]
      exact List.perm_append_singleton task _
    exact hmoved.trans (((List.perm_cons_erase ht).symm.append_right _).trans h.tasks)

theorem passed (h : l.Tracks past) {e : Event κ} (hconnection : e.connection? = none)
    (hfinished : e.finished? = none) : l.Tracks (past ++ [e]) where
  going := h.going
  flusher := h.flusher
  connections := h.connections.trans (Event.filterMap_snoc_none hconnection past).symm
  tasks := by
    rw [Event.filterMap_snoc_none hfinished]
    exact h.tasks

theorem step (h : l.Tracks past) {e : Event κ} (he : e.isPassing = true)
    (hoffers : l.offers e = true) : (l.step e).1.Tracks (past ++ [e]) := by
  rw [step_of_going h.going]
  cases e with
  | accepted connection peer => exact h.accepted connection peer
  | acceptFailed error =>
    have herror : error.isPassing = true := Event.isPassing_acceptFailed error ▸ he
    simp only [take, herror, if_true]
    exact h.passed rfl rfl
  | connectionEnded task => exact h.finished (List.contains_iff_mem.1 hoffers) rfl rfl
  | connectionFailed task error => exact h.finished (List.contains_iff_mem.1 hoffers) rfl rfl
  | flusherEnded | cancelled => cases he

end Tracks

/-- Connections that have been accepted stay where they are. -/
theorem getElem?_connections_step {l : Loop κ} {task : Nat} {connection : κ}
    (h : l.connections[task]? = some connection) (e : Event κ) :
    (l.step e).1.connections[task]? = some connection := by
  cases hresult : l.result with
  | some result => simpa only [step, hresult] using h
  | none =>
    rw [step_of_going hresult]
    cases e with
    | accepted other peer =>
      exact (List.getElem?_append_left (List.getElem?_eq_some_iff.1 h).1).trans h
    | acceptFailed error =>
      simp only [take]
      cases error.isPassing <;> exact h
    | _ => exact h

end Loop

namespace Serving

theorem loop_converse (service : Service) (task : Nat) (s : Serving) (h : Host) :
    (s.converse service task h).1.loop = s.loop := by
  unfold converse
  cases s.connectionOf? task <;> rfl

theorem loop_step (service : Service) (e : Event Bytes) (s : Serving) (h : Host) :
    (s.step service e h).1.loop = (s.loop.step e).1 := by
  cases e with
  | connectionEnded task =>
    have hloop := loop_converse service task s h
    simp only [step, hloop]
  | _ => rfl

/-- Only a task that comes to its end has anything to tell. -/
theorem conversations_step (service : Service) {e : Event Bytes} (he : e.ended? = none)
    (s : Serving) (h : Host) : (s.step service e h).1.conversations = s.conversations := by
  cases e with
  | connectionEnded task => cases he
  | _ => rfl

theorem run_append (service : Service) (first rest : List (Event Bytes)) (s : Serving) (h : Host) :
    run service (first ++ rest) s h =
      run service rest (run service first s h).1 (run service first s h).2 := by
  induction first generalizing s h with
  | nil => rfl
  | cons e first ih => exact ih _ _

/-- Once the loop has ended, nothing more is said. -/
theorem run_of_result (service : Service) (events : List (Event Bytes)) {s : Serving}
    {result : Except ServeError Unit} (hresult : s.loop.result = some result)
    (hidle : s.loop.running = []) (h : Host) : (run service events s h).1 = s := by
  induction events generalizing h with
  | nil => rfl
  | cons e rest ih =>
    have hloop : (s.loop.step e).1 = s.loop := by simp only [Loop.step, hresult]
    have hstep : (s.step service e h).1 = s := by
      cases e with
      | connectionEnded task =>
        have hnobody : s.connectionOf? task = none := by
          rw [connectionOf?, hidle]
          rfl
        simp only [step, converse, hnobody, hloop]
      | _ => simp only [step, hloop]
    change (run service rest (s.step service e h).1 (s.step service e h).2).1 = s
    rw [hstep]
    exact ih _

/-- A server whose loop goes on after some events: the tasks that have come to their ends have
served their connections with the service, each one once. -/
structure Tracks (service : Service) (s : Serving) (past : List (Event Bytes)) : Prop where
  loop : s.loop.Tracks past
  ended : s.conversations.map Prod.fst = past.filterMap Event.ended?
  served : ∀ task conversation, (task, conversation) ∈ s.conversations →
    ∃ connection h, s.loop.connections[task]? = some connection ∧
      conversation = (Connection.serve service connection h).1

theorem tracks_start (service : Service) : start.Tracks service [] where
  loop := Loop.tracks_start
  ended := rfl
  served := by
    intro task conversation hmem
    cases hmem

namespace Tracks

variable {service : Service} {s : Serving} {past : List (Event Bytes)}

/-- A task that comes to its end has served the connection it was given. -/
theorem conversations_step_of_ended (hs : s.Tracks service past) {e : Event Bytes} {task : Nat}
    (hended : e.ended? = some task) (hoffers : s.loop.offers e = true) (h : Host) :
    ∃ connection, s.loop.connections[task]? = some connection ∧
      (s.step service e h).1.conversations =
        s.conversations ++ [(task, (Connection.serve service connection h).1)] := by
  cases e with
  | connectionEnded other =>
    cases hended
    have hlt := hs.loop.lt_of_running (List.contains_iff_mem.1 hoffers)
    have hconnection := List.getElem?_eq_getElem hlt
    have hof : s.connectionOf? task = some s.loop.connections[task] :=
      (if_pos hoffers).trans hconnection
    refine ⟨_, hconnection, ?_⟩
    change (s.converse service task h).1.conversations = _
    simp only [Serving.converse, hof]
  | _ => cases hended

theorem step (hs : s.Tracks service past) {e : Event Bytes} (he : e.isPassing = true)
    (hoffers : s.loop.offers e = true) (h : Host) :
    (s.step service e h).1.Tracks service (past ++ [e]) := by
  have hloop := loop_step service e s h
  have hkept : ∀ {task : Nat} {connection : Bytes}, s.loop.connections[task]? = some connection →
      (s.step service e h).1.loop.connections[task]? = some connection := by
    intro task connection hconnection
    rw [hloop]
    exact Loop.getElem?_connections_step hconnection e
  have hold : ∀ task conversation, (task, conversation) ∈ s.conversations →
      ∃ connection h', (s.step service e h).1.loop.connections[task]? = some connection ∧
        conversation = (Connection.serve service connection h').1 := by
    intro task conversation hmem
    obtain ⟨connection, h', hconnection, hserved⟩ := hs.served task conversation hmem
    exact ⟨connection, h', hkept hconnection, hserved⟩
  refine ⟨hloop ▸ hs.loop.step he hoffers, ?_, ?_⟩
  · cases hended : e.ended? with
    | none => rw [conversations_step service hended, Event.filterMap_snoc_none hended, hs.ended]
    | some task =>
      obtain ⟨connection, -, hsaid⟩ := hs.conversations_step_of_ended hended hoffers h
      rw [hsaid, List.map_append, hs.ended, List.filterMap_append, List.filterMap_cons_some hended]
      rfl
  · intro task conversation hmem
    cases hended : e.ended? with
    | none => exact hold task conversation (conversations_step service hended s h ▸ hmem)
    | some other =>
      obtain ⟨connection, hconnection, hsaid⟩ := hs.conversations_step_of_ended hended hoffers h
      rw [hsaid, List.mem_append, List.mem_singleton] at hmem
      rcases hmem with hmem | hnew
      · exact hold task conversation hmem
      · cases hnew
        exact ⟨connection, h, hkept hconnection, rfl⟩

/-- What holds as long as the loop goes on. -/
theorem run (hs : s.Tracks service past) (events : List (Event Bytes)) (h : Host)
    (hadmits : s.loop.Admits events) :
    (run service (events.takeWhile Event.isPassing) s h).1.Tracks service
      (past ++ events.takeWhile Event.isPassing) := by
  induction events generalizing s past h with
  | nil => rwa [List.takeWhile_nil, List.append_nil]
  | cons e rest ih =>
    cases he : e.isPassing with
    | false =>
      rw [List.takeWhile_cons_of_neg (by rw [he]; exact Bool.false_ne_true), List.append_nil]
      exact hs
    | true =>
      rw [List.takeWhile_cons_of_pos he, List.append_cons]
      obtain ⟨hoffers, hrest⟩ := hadmits
      refine ih (hs.step he (hoffers hs.loop.going) h) _ ?_
      rwa [loop_step]

/-- The server at the first event that the loop does not pass over. What comes later changes
nothing. -/
theorem run_stopped (hs : s.Tracks service past) {e : Event Bytes} (he : e.isPassing = false)
    (later : List (Event Bytes)) (h : Host) :
    (Serving.run service (e :: later) s h).1 = { s with loop := (s.loop.take e).1 } := by
  obtain ⟨hresult, hidle, -, -⟩ := s.loop.take_of_not_passing he
  have hloop : (s.step service e h).1.loop = (s.loop.take e).1 := by
    rw [loop_step, Loop.step_of_going hs.loop.going]
  have hsaid : (s.step service e h).1.conversations = s.conversations := by
    refine conversations_step service ?_ s h
    cases e with
    | connectionEnded task => cases he
    | _ => rfl
  have hstep : (s.step service e h).1 = { s with loop := (s.loop.take e).1 } := by
    rw [← hloop, ← hsaid]
  change (Serving.run service later (s.step service e h).1 (s.step service e h).2).1 = _
  rw [hstep]
  exact run_of_result service later hresult hidle _

end Tracks

/-- What has come of a server that has seen some events. -/
structure Course (service : Service) (events : List (Event Bytes)) (s : Serving) : Prop where
  goes_on : s.loop.result = none ↔ ∀ e ∈ events, e.isPassing = true
  returns : s.loop.result = some (.ok ()) ↔ Event.deciding? events = some .cancelled
  fails : ∀ error, s.loop.result = some (.error error) ↔
    (∃ why, Event.deciding? events = some (.acceptFailed why) ∧ error = .accept why) ∨
      ∃ how, Event.deciding? events = some (.flusherEnded how) ∧ error = .flusherEnded
  connections : s.loop.connections = (Event.passed events).filterMap Event.connection?
  /-- Each connection has one task, under its number. It has finished once, or it was running when
  the loop ended, or it still runs. -/
  tasks : ∃ running,
    (running ++ (Event.passed events).filterMap Event.finished?).Perm
      (List.range s.loop.connections.length) ∧
    s.loop.running = if s.loop.result = none then running else []
  ended : s.conversations.map Prod.fst = (Event.passed events).filterMap Event.ended?
  served : ∀ task conversation, (task, conversation) ∈ s.conversations →
    ∃ connection h, s.loop.connections[task]? = some connection ∧
      conversation = (Connection.serve service connection h).1
  closed : s.loop.result = some (.ok ()) →
    s.loop.running = [] ∧ s.loop.flusherAborted = true

theorem Tracks.course {service : Service} {events : List (Event Bytes)} {s : Serving}
    (hs : s.Tracks service events) (hpassed : Event.passed events = events)
    (hnone : Event.deciding? events = none) (hall : ∀ e ∈ events, e.isPassing = true) :
    s.Course service events where
  goes_on := ⟨fun _ => hall, fun _ => hs.loop.going⟩
  returns := by simp [hs.loop.going, hnone]
  fails := by simp [hs.loop.going, hnone]
  connections := hpassed.symm ▸ hs.loop.connections
  tasks := ⟨s.loop.running, hpassed.symm ▸ hs.loop.tasks, (if_pos hs.loop.going).symm⟩
  ended := hpassed.symm ▸ hs.ended
  served := hs.served
  closed := by
    intro hresult
    cases hs.loop.going.symm.trans hresult

/-- The first event that the loop does not pass over ends it and closes what is left. -/
theorem Tracks.course_stopped {service : Service} {events : List (Event Bytes)} {s : Serving}
    (hs : s.Tracks service (Event.passed events)) {e : Event Bytes} (hmem : e ∈ events)
    (hfirst : Event.deciding? events = some e) (he : e.isPassing = false) :
    ({ s with loop := (s.loop.take e).1 } : Serving).Course service events := by
  obtain ⟨hresult, hidle, hconnections, haborted⟩ := s.loop.take_of_not_passing he
  rw [hs.loop.flusher, Bool.false_or] at haborted
  have hended : (s.loop.take e).1.result ≠ none := by
    rw [hresult]
    exact Option.some_ne_none _
  exact {
    goes_on := by
      refine iff_of_false hended fun hall => ?_
      cases he.symm.trans (hall e hmem)
    returns := by
      rw [hresult, hfirst, Option.some_inj, Option.some_inj, Event.verdict_eq_ok he]
    fails := by
      intro error
      rw [hresult, hfirst]
      simp only [Option.some_inj, Event.verdict_eq_error]
    connections := hconnections.trans hs.loop.connections
    tasks := by
      refine ⟨s.loop.running, ?_, hidle.trans (if_neg hended).symm⟩
      rw [hconnections]
      exact hs.loop.tasks
    ended := hs.ended
    served := by
      rw [hconnections]
      exact hs.served
    closed := by
      intro hok
      rw [hresult, Option.some_inj] at hok
      rw [hok] at haborted
      exact ⟨hidle, haborted⟩ }

/-- The course of a server follows from the events, in whatever order they come. The loop goes on
until the first event that it does not pass over, which settles how it ends. -/
theorem course_of_events (service : Service) (events : List (Event Bytes)) (h : Host)
    (hadmits : Loop.start.Admits events) :
    (run service events start h).1.Course service events := by
  have hpassed := (tracks_start service).run events h hadmits
  rw [List.nil_append, ← Event.passed] at hpassed
  rcases Event.passed_cases events with ⟨hall, hnone, hpassing⟩ | ⟨e, later, hevents, hfirst, he⟩
  · rw [hall] at hpassed
    exact hpassed.course hall hnone hpassing
  · have hrun := run_append service (Event.passed events) (e :: later) start h
    rw [← hevents] at hrun
    rw [hrun, hpassed.run_stopped he]
    have hmem : e ∈ events := hevents ▸ List.mem_append_right _ List.mem_cons_self
    exact hpassed.course_stopped hmem hfirst he

/-- One task comes to its end, one panics and one still runs when the server is told to stop. The
failures of single connections in between do not matter. Another server has no chance to be told:
its listener fails for good. -/
theorem course_of_events_cancelled :
    let service : Service := ⟨⟨.unreached, 500, .standard, .seeded 0⟩, Demo.handler "", fun _ => ""⟩
    let events : List (Event Bytes) :=
      [.accepted [] "10.0.0.1:1", .acceptFailed .reset, .accepted [71] "10.0.0.2:1",
        .connectionEnded 1, .acceptFailed .refused, .accepted [] "10.0.0.1:2",
        .connectionFailed 0 (.panicked "boom"), .acceptFailed .aborted, .cancelled,
        .flusherEnded .returned]
    let failing : List (Event Bytes) :=
      [.accepted [] "10.0.0.1:1", .acceptFailed .refused,
        .acceptFailed (.other "too many open files"), .cancelled]
    Loop.start.Admits events ∧ Loop.start.Admits failing ∧
      (let s := (run service events start (.fresh "")).1
       s.loop.result = some (.ok ()) ∧ s.loop.running = [] ∧ s.loop.flusherAborted = true ∧
        s.loop.connections = [[], [71], []] ∧ s.conversations.map Prod.fst = [1]) ∧
      let s := (run service failing start (.fresh "")).1
      s.loop.result = some (.error (.accept (.other "too many open files"))) ∧
        s.loop.connections = [[]] := by
  intro service events failing
  have hadmits : Loop.start.Admits events := by
    refine ⟨?_, ?_, ?_, ?_, ?_, ?_, ?_, ?_, ?_, ?_, trivial⟩ <;> decide
  have hadmitsFailing : Loop.start.Admits failing := by
    refine ⟨?_, ?_, ?_, ?_, trivial⟩ <;> decide
  have hcourse := course_of_events service events (.fresh "") hadmits
  have hresult := hcourse.returns.2 rfl
  obtain ⟨hidle, haborted⟩ := hcourse.closed hresult
  have hfailing := course_of_events service failing (.fresh "") hadmitsFailing
  have herror := (hfailing.fails (.accept (.other "too many open files"))).2 (.inl ⟨_, rfl, rfl⟩)
  exact ⟨hadmits, hadmitsFailing,
    ⟨hresult, hidle, haborted, hcourse.connections, hcourse.ended⟩, herror, hfailing.connections⟩

end Serving

end Telemetry.Server
