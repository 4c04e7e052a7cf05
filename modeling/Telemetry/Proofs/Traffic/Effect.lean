import Telemetry.Proofs.Traffic.Activity

/-!
What one step can do.

`Effect` has one case for each thing that a step can come to, with what it takes and all that
it changes. Every step is one of them (`Activity.effect`), so what all steps keep is proved by
cases on `Effect`, and the functions of the client are not looked into again.
-/
namespace Telemetry

/-- An upload that nobody would miss. -/
def StatsUpload.HasNothing (u : StatsUpload) : Prop :=
  u.requests = [] ∧ u.statusCodes.entries = []

instance : DecidablePred StatsUpload.HasNothing :=
  fun u => inferInstanceAs (Decidable (u.requests = [] ∧ u.statusCodes.entries = []))

/-- A step from one activity to the next, what is done in it, and the host afterwards. -/
inductive Effect (h : Host) : Activity → Activity → List Deed → Host → Prop where
  | counts (r : Served) :
    Effect h (.counting r) (.recording r) [.counted r.status]
      { h with statusCodes := h.statusCodes.inc r.status }
  | records (r : Served) (log : List LogLine) (hnotable : r.isNotable = true) :
    Effect h (.recording r) .ended [.recorded r.outcome]
      { h with outcomes := h.outcomes.add r.outcome, log := log }
  | ignores (r : Served) (hnotable : r.isNotable = false) :
    Effect h (.recording r) .ended [] h
  | takesOutcomes (c : Client) :
    Effect h (.takingOutcomes c) (.takingCounts c h.outcomes.toList)
      [.tookOutcomes h.outcomes.toList] { h with outcomes := .empty }
  | takesNothing (c : Client) (requests : List RequestOutcome)
    (hempty : (StatsUpload.mk requests h.statusCodes.counts).HasNothing) :
    Effect h (.takingCounts c requests) .ended [.tookCounts ⟨requests, h.statusCodes.counts⟩]
      { h with statusCodes := .empty }
  | takesCounts (c : Client) (requests : List RequestOutcome) (log : List LogLine)
    (hfull : ¬ (StatsUpload.mk requests h.statusCodes.counts).HasNothing) :
    Effect h (.takingCounts c requests) (.sending c (.stats ⟨requests, h.statusCodes.counts⟩))
      [.tookCounts ⟨requests, h.statusCodes.counts⟩]
      { h with statusCodes := .empty, log := log }
  | captures (c : Client) (id : Int64) (kind : CaptureKind) (upload : CaptureUpload)
    (probes : List Probe) (log : List LogLine) :
    Effect h (.capturing c id kind) (.sending c (.capture kind upload)) []
      { h with probes := probes, log := log }
  | posts (c : Client) (cargo : Cargo) (headers : Http.Headers) (hc : c.CanPost headers) :
    Effect h (.sending c cargo) (.awaiting c cargo (c.collector h.posts (cargo.post c headers)))
      [.sent (cargo.post c headers)] { h with posts := h.posts ++ [cargo.post c headers] }
  | drops (c : Client) (cargo : Cargo) (log : List LogLine)
    (hc : ∀ headers, ¬ c.CanPost headers) :
    Effect h (.sending c cargo) .ended [] { h with log := log }
  | closes (c : Client) (cargo : Cargo) (answer : Except TransportError Reply)
    (log : List LogLine) :
    Effect h (.awaiting c cargo answer) .ended [] { h with log := log }
  | hears (c : Client) (cargo : Cargo) (reply : Reply) (decoded : CollectorReply)
    (log : List LogLine) (hseeks : cargo.seeksCommands = true)
    (hdecode : CollectorReply.decode reply.body = .ok decoded) :
    Effect h (.awaiting c cargo (.ok reply)) (.dispatching c decoded.agent decoded.commands 0) []
      { h with log := log }
  | launches (c : Client) (agent : Agent) (command : Command) (rest : List Command)
    (launched : Nat) (kind : CaptureKind) (log : List LogLine)
    (hkind : command.capture? = some kind) (hnew : command.id ∉ h.commands.ids) :
    Effect h (.dispatching c agent (command :: rest) launched)
      (.dispatching c agent rest (launched + 1)) [.launched (.capture c command.id kind)]
      { h with
        commands := (h.commands.tryStart command.id).2
        tasks := h.tasks ++ [.capture c command.id kind]
        log := log }
  | passes (c : Client) (agent : Agent) (command : Command) (rest : List Command)
    (launched : Nat) (log : List LogLine)
    (hold : ∀ kind, command.capture? = some kind → command.id ∈ h.commands.ids) :
    Effect h (.dispatching c agent (command :: rest) launched) (.dispatching c agent rest launched)
      [] { h with log := log }
  | halts (c : Client) (agent : Agent) (launched : Nat) :
    Effect h (.dispatching c agent [] launched) (.dispatching c agent [] launched) [] h
  | looks (l : Look) : Effect h (.looking l) .ended [.saw (l.sight h)] h
  | rests : Effect h .ended .ended [] h

namespace Activity

theorem effect_recording (r : Served) (h : Host) :
    Effect h (.recording r) ((recording r).step h).1 ((recording r).step h).2.1
      ((recording r).step h).2.2 := by
  have haccount : r.account.2 h = Interceptor.record r.outcome r.isNotable r.request h := rfl
  cases hnotable : r.isNotable with
  | true =>
    simp only [step, haccount, hnotable, Interceptor.record, Host.write, if_true]
    exact .records r _ hnotable
  | false =>
    simp only [step, haccount, hnotable, Interceptor.record, Bool.false_eq_true, if_false]
    exact .ignores r hnotable

theorem effect_takingCounts (c : Client) (requests : List RequestOutcome) (h : Host) :
    Effect h (.takingCounts c requests) ((takingCounts c requests).step h).1
      ((takingCounts c requests).step h).2.1 ((takingCounts c requests).step h).2.2 := by
  have htaken : Client.takeCounts requests h =
      (⟨requests, h.statusCodes.counts⟩, { h with statusCodes := .empty }) := rfl
  simp only [step, htaken]
  by_cases hempty : (StatsUpload.mk requests h.statusCodes.counts).isEmpty = true
  · simp only [hempty, if_true]
    exact .takesNothing c requests (StatsUpload.isEmpty_iff.1 hempty)
  · simp only [if_neg hempty, Host.write]
    exact .takesCounts c requests _ (mt StatsUpload.isEmpty_iff.2 hempty)

theorem effect_capturing (c : Client) (id : Int64) (kind : CaptureKind) (h : Host) :
    Effect h (.capturing c id kind) ((capturing c id kind).step h).1
      ((capturing c id kind).step h).2.1 ((capturing c id kind).step h).2.2 := by
  obtain ⟨log, hupload⟩ := c.captureUpload_eq id kind h
  simp only [step, hupload]
  exact .captures c id kind _ _ log

theorem effect_sending (c : Client) (cargo : Cargo) (h : Host) :
    Effect h (.sending c cargo) ((sending c cargo).step h).1 ((sending c cargo).step h).2.1
      ((sending c cargo).step h).2.2 := by
  rcases c.begin?_cases cargo.body (c.config.url cargo.path) h with
    ⟨headers, hc⟩ | ⟨hc, log, hdrop⟩
  · simp only [step, Client.begin?_of_canPost hc, List.drop_left, List.map_cons, List.map_nil]
    exact .posts c cargo headers hc
  · simp only [step, hdrop]
    exact .drops c cargo log hc

theorem effect_awaiting (c : Client) (cargo : Cargo) (answer : Except TransportError Reply)
    (h : Host) :
    Effect h (.awaiting c cargo answer) ((awaiting c cargo answer).step h).1
      ((awaiting c cargo answer).step h).2.1 ((awaiting c cargo answer).step h).2.2 := by
  obtain ⟨log, hhost⟩ := Client.hear_host (c.config.url cargo.path) cargo.seeksCommands answer h
  rcases hhear : Client.hear (c.config.url cargo.path) cargo.seeksCommands answer h
    with ⟨decoded | decoded, after⟩ <;> rw [hhear] at hhost <;> change after = _ at hhost <;>
    subst hhost
  · simp only [step, hhear]
    exact .closes c cargo answer log
  · obtain ⟨hseeks, reply, rfl, hdecode⟩ := Client.hear_some (congrArg Prod.fst hhear)
    simp only [step, hhear]
    exact .hears c cargo reply decoded log hseeks hdecode

theorem effect_dispatching (c : Client) (agent : Agent) (command : Command)
    (rest : List Command) (launched : Nat) (h : Host) :
    Effect h (.dispatching c agent (command :: rest) launched)
      ((dispatching c agent (command :: rest) launched).step h).1
      ((dispatching c agent (command :: rest) launched).step h).2.1
      ((dispatching c agent (command :: rest) launched).step h).2.2 := by
  rcases c.dispatchOne_cases agent command h with ⟨kind, log, hkind, hnew, hone⟩ | ⟨hold, log, hone⟩
  · simp only [step, hone, if_true, List.drop_left, List.map_cons, List.map_nil]
    exact .launches c agent command rest launched kind log hkind hnew
  · simp only [step, hone, Bool.false_eq_true, if_false, List.drop_length, List.map_nil]
    exact .passes c agent command rest launched log hold

/-- Every step is one of the effects. -/
theorem effect (a : Activity) (h : Host) :
    Effect h a (a.step h).1 (a.step h).2.1 (a.step h).2.2 := by
  cases a with
  | counting r => exact .counts r
  | recording r => exact effect_recording r h
  | takingOutcomes c => exact .takesOutcomes c
  | takingCounts c requests => exact effect_takingCounts c requests h
  | capturing c id kind => exact effect_capturing c id kind h
  | sending c cargo => exact effect_sending c cargo h
  | awaiting c cargo answer => exact effect_awaiting c cargo answer h
  | dispatching c agent commands launched =>
    cases commands with
    | nil => exact .halts c agent launched
    | cons command rest => exact effect_dispatching c agent command rest launched h
  | looking l => exact .looks l
  | ended => exact .rests

theorem launchCount_of_not_mayLaunch {a : Activity} (ha : a.mayLaunch = false) :
    a.launchCount = 0 := by
  cases a with
  | dispatching c agent commands launched => cases ha
  | _ => rfl

end Activity

/-- The queue has grown by tasks that were launched, and the registry by the ids that they answer.
Each of the tasks answers one. -/
structure Host.GrownBy (h : Host) (launched : List Task) (after : Host) : Prop where
  tasks : after.tasks = h.tasks ++ launched
  ids : after.commands.ids = h.commands.ids ++ launched.filterMap Task.commandId?
  captures : (launched.filterMap Task.commandId?).length = launched.length

theorem Host.GrownBy.nil {h after : Host} (htasks : after.tasks = h.tasks)
    (hcommands : after.commands = h.commands) : h.GrownBy [] after :=
  ⟨htasks.trans (List.append_nil _).symm,
    (congrArg CommandRegistry.ids hcommands).trans (List.append_nil _).symm, rfl⟩

namespace Effect

variable {h after : Host} {a next : Activity} {deeds : List Deed}

theorem grownBy (hs : Effect h a next deeds after) :
    h.GrownBy (deeds.filterMap Deed.task?) after := by
  cases hs with
  | launches c agent command rest launched kind log hkind hnew =>
    exact ⟨rfl, CommandRegistry.ids_tryStart hnew, rfl⟩
  | _ => exact .nil rfl rfl

/-- The transport has been handed what the step sent. -/
theorem posts_eq (hs : Effect h a next deeds after) :
    after.posts = h.posts ++ deeds.filterMap Deed.post? := by
  cases hs with
  | posts c cargo headers hc => rfl
  | _ => exact (List.append_nil _).symm

/-- Only a loop over commands launches anything, and that is the capture its next command asks
for. -/
theorem of_mem_tasks (hs : Effect h a next deeds after) {task : Task}
    (htask : task ∈ deeds.filterMap Deed.task?) :
    ∃ c agent command rest launched kind, a = .dispatching c agent (command :: rest) launched ∧
      command.capture? = some kind ∧ task = .capture c command.id kind := by
  cases hs with
  | launches c agent command rest launched kind log hkind hnew =>
    exact ⟨c, agent, command, rest, launched, kind, rfl, hkind, List.mem_singleton.1 htask⟩
  | _ => cases htask

/-- Whoever looks for no commands goes on without, and touches neither the registry nor the
queue of tasks. -/
theorem of_not_mayLaunch (hs : Effect h a next deeds after) (ha : a.mayLaunch = false) :
    next.mayLaunch = false ∧ deeds.filterMap Deed.task? = [] ∧
      after.commands = h.commands ∧ after.tasks = h.tasks := by
  cases hs with
  | takesOutcomes c | takesNothing c requests hempty | takesCounts c requests log hfull
  | launches c agent command rest launched kind log hkind hnew
  | passes c agent command rest launched log hold | halts c agent launched => cases ha
  | hears c cargo reply decoded log hseeks hdecode => cases hseeks.symm.trans ha
  | posts c cargo headers hc => exact ⟨ha, rfl, rfl, rfl⟩
  | _ => exact ⟨rfl, rfl, rfl, rfl⟩

/-- A loop goes on with the rest of the commands and counts what it launches. If the kind of the
command is known, its id is registered afterwards. -/
theorem of_dispatching {c : Client} {agent : Agent} {command : Command} {rest : List Command}
    {launched : Nat}
    (hs : Effect h (.dispatching c agent (command :: rest) launched) next deeds after) :
    next = .dispatching c agent rest (launched + (deeds.filterMap Deed.task?).length) ∧
      ∀ kind, command.capture? = some kind → command.id ∈ after.commands.ids := by
  cases hs with
  | launches c agent command rest launched kind log hkind hnew =>
    refine ⟨rfl, fun _ _ => ?_⟩
    rw [CommandRegistry.ids_tryStart hnew]
    exact List.mem_append_right _ List.mem_cons_self
  | passes c agent command rest launched log hold => exact ⟨rfl, hold⟩

end Effect

end Telemetry
