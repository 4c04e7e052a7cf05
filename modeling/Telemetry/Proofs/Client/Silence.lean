import Telemetry.Proofs.Commands.OncePerId
import Telemetry.Proofs.Session.Ending
import Telemetry.Proofs.Session.Prospect

/-!
A client that must not post is silent.

With sending off no POST is begun, so no answer is ever waited for, and what is done afterwards can
only act on commands that were handed over directly. Duties that are `Duty.IsMuted` leave no others
(`Turn.isMuted`), which covers every call and every task at once. The commands in hand of a duty are
followed in two directions: whatever is launched was in hand before (`Turn.of_launched`), and what
was in hand is registered or still in hand (`Turn.registers`). That a capture is taken at most once
comes from the registry, which has no id twice, and from each launched task having its one capture
before it or behind it (`Turn.captures_eq`).
-/
namespace Telemetry

variable {α σ : Type}

namespace Duty

/-- Whether there is an answer of the collector to act on. -/
def hasAnswer : Duty α σ → Bool
  | .run (.awaiting ..) | .hear .. => true
  | _ => false

/-- A duty for a client that does not post. -/
structure IsMuted (d : Duty α σ) : Prop where
  noPost : ∀ c, d.client? = some c → c.config.noPost = true
  noAnswer : d.hasAnswer = false

/-- The commands in hand. -/
def commands : Duty α σ → List Command
  | .decode _ body =>
    match CollectorReply.decode body with
    | .ok reply => reply.commands
    | .error _ => []
  | .run (.dispatching _ _ commands _) => commands
  | _ => []

/-- The command whose capture is still to be taken. -/
def captureId? : Duty α σ → Option Int64
  | .run (.capturing _ id _) => some id
  | _ => none

end Duty

/-- A client that could post but must not. -/
def Client.muted : Client :=
  { Client.unreached with config := { Client.unreached.config with noPost := true } }

theorem Client.not_canPost {c : Client} (hc : c.config.noPost = true) (headers : Http.Headers) :
    ¬ c.CanPost headers := by
  intro hpost
  cases hc.symm.trans hpost.posting

theorem Duty.FollowUp.hasAnswer {c : Client} {d : Duty α σ} (hd : d.FollowUp c) :
    d.hasAnswer = false := by
  cases hd <;> rfl

theorem Duty.FollowUp.commands_eq_nil {c : Client} {d : Duty α σ} (hd : d.FollowUp c) :
    d.commands = [] := by
  cases hd <;> rfl

theorem Duty.FollowUp.captureId? {c : Client} {d : Duty α σ} (hd : d.FollowUp c) :
    d.captureId? = none := by
  cases hd <;> rfl

/-! ### What a step does with commands and captures -/

/-- A loop goes on with commands that it had, and launches for one of them. -/
theorem Effect.of_commands {h after : Host} {a next : Activity} {deeds : List Deed}
    (hs : Effect h a next deeds after) (ha : (Duty.run a : Duty α σ).hasAnswer = false) :
    (∀ command ∈ (Duty.run next : Duty α σ).commands,
      command ∈ (Duty.run a : Duty α σ).commands) ∧
    ∀ task ∈ deeds.filterMap Deed.task?, ∃ command ∈ (Duty.run a : Duty α σ).commands,
      task.commandId? = some command.id ∧ ∃ kind, command.capture? = some kind := by
  cases hs with
  | launches c agent command rest launched kind log hkind hnew =>
    refine ⟨fun other hother => List.mem_cons_of_mem _ hother, fun task htask => ?_⟩
    rw [List.mem_singleton.1 htask]
    exact ⟨command, List.mem_cons_self, rfl, kind, hkind⟩
  | passes c agent command rest launched log hold =>
    exact ⟨fun other hother => List.mem_cons_of_mem _ hother,
      fun _ hnone => absurd hnone List.not_mem_nil⟩
  | halts => exact ⟨fun _ hmem => hmem, fun _ hnone => absurd hnone List.not_mem_nil⟩
  | hears | closes => cases ha
  | _ => exact ⟨fun _ hmem => absurd hmem List.not_mem_nil,
      fun _ hnone => absurd hnone List.not_mem_nil⟩

/-- A command of a known kind is registered when the loop has got past it. -/
theorem Effect.registers {h after : Host} {a next : Activity} {deeds : List Deed}
    (hs : Effect h a next deeds after) :
    ∀ command ∈ (Duty.run a : Duty α σ).commands, (∃ kind, command.capture? = some kind) →
      command.id ∈ after.commands.ids ∨
        ∃ e ∈ (Duty.goingOn next : List (Duty α σ)), command ∈ e.commands := by
  have hrest : ∀ (c : Client) (agent : Agent) (rest : List Command) (launched : Nat),
      ∀ command ∈ rest, ∃ e ∈ (Duty.goingOn (.dispatching c agent rest launched) :
        List (Duty α σ)), command ∈ e.commands := by
    intro c agent rest launched command hcommand
    refine ⟨.run (.dispatching c agent rest launched), Duty.mem_goingOn.2 ⟨?_, rfl⟩, hcommand⟩
    cases rest with
    | nil => cases hcommand
    | cons first rest => rfl
  intro command hcommand hknown
  obtain ⟨known, hknown⟩ := hknown
  cases a with
  | dispatching c agent commands launched =>
    cases commands with
    | nil => cases hcommand
    | cons first rest =>
      obtain ⟨hnext, hfirst⟩ := hs.of_dispatching
      rcases List.mem_cons.1 hcommand with rfl | hlater
      · exact Or.inl (hfirst known hknown)
      · rw [hnext]
        exact Or.inr (hrest c agent rest _ command hlater)
  | _ => cases hcommand

/-- A capture is taken when its activity says so. -/
theorem Effect.captures_eq {h after : Host} {a next : Activity} {deeds : List Deed}
    (hs : Effect h a next deeds after) :
    (a.captures ++ deeds.map .did : List (Act α σ)).filterMap Act.captured? ++
        (Duty.goingOn next : List (Duty α σ)).filterMap Duty.captureId? =
      (Duty.run a : Duty α σ).captureId?.toList := by
  have hnext : (Duty.goingOn next : List (Duty α σ)).filterMap Duty.captureId? = [] := by
    rw [List.filterMap_eq_nil_iff]
    intro d hd
    rw [(Duty.mem_goingOn.1 hd).2]
    cases hs <;> rfl
  have hdeeds : (deeds.map .did : List (Act α σ)).filterMap Act.captured? = [] := by
    rw [List.filterMap_map, List.filterMap_eq_nil_iff]
    intro deed _
    rfl
  rw [hnext, List.filterMap_append, hdeeds, List.append_nil, List.append_nil]
  cases a <;> rfl

namespace Turn

variable {ended : Nat → Bool} {fresh : Nat} {h after : Host} {d : Duty α σ}
  {left : List (Duty α σ)} {acts : List (Act α σ)} {spawned : List Task}

/-- Whoever does not post waits for no answer afterwards. -/
theorem hasAnswer (hs : Turn ended fresh h d left acts spawned after) (hd : d.IsMuted) :
    ∀ e ∈ left, e.hasAnswer = false := by
  intro e he
  cases hs with
  | runs a next deeds after hs =>
    rw [(Duty.mem_goingOn.1 he).2]
    cases hs with
    | posts c cargo headers hc => exact absurd hc (Client.not_canPost (hd.noPost c rfl) headers)
    | _ => rfl
  | posts c body url seeks headers hc =>
    exact absurd hc (Client.not_canPost (hd.noPost c rfl) headers)
  | hears => cases hd.noAnswer
  | intercepts i handler w req s span hspan =>
    rcases List.mem_append.1 he with he | hlast
    · exact (Interceptor.followUp e he).hasAnswer
    · rw [List.mem_singleton.1 hlast]
      rfl
  | serves s req span hspan => exact (Service.followUp e he).hasAnswer
  | reports c payload span patience trace log =>
    cases patience with
    | goesOn => cases he
    | waits | cannotWait =>
      rw [List.mem_singleton.1 he]
      rfl
  | decodes | waits =>
    rw [List.mem_singleton.1 he]
    rfl
  | _ => cases he

theorem isMuted (hs : Turn ended fresh h d left acts spawned after) (hd : d.IsMuted) :
    (∀ e ∈ left, e.IsMuted) ∧ ∀ task ∈ spawned, task.client.config.noPost = true :=
  ⟨fun e he => ⟨fun c hc => hd.noPost c (hs.client?_eq.1 e he c hc), hs.hasAnswer hd e he⟩,
    fun task htask => hd.noPost task.client (hs.client?_eq.2 task htask)⟩

theorem sent_eq_nil (hs : Turn ended fresh h d left acts spawned after) (hd : d.IsMuted) :
    acts.filterMap Act.sent? = [] := by
  cases hs with
  | runs a next deeds after hs =>
    have hdeeds : deeds.filterMap Deed.post? = [] := by
      cases hs with
      | posts c cargo headers hc => exact absurd hc (Client.not_canPost (hd.noPost c rfl) headers)
      | _ => rfl
    exact (a.filterMap_deed deeds Deed.post?).trans hdeeds
  | posts c body url seeks headers hc =>
    exact absurd hc (Client.not_canPost (hd.noPost c rfl) headers)
  | _ => rfl

/-- Commands in hand have been in hand before. -/
theorem of_commands (hs : Turn ended fresh h d left acts spawned after) (hd : d.IsMuted) :
    ∀ e ∈ left, ∀ command ∈ e.commands, command ∈ d.commands := by
  intro e he command hcommand
  cases hs with
  | runs a next deeds after hs =>
    rw [(Duty.mem_goingOn.1 he).2] at hcommand
    exact (hs.of_commands hd.noAnswer).1 command hcommand
  | hears => cases hd.noAnswer
  | decodes c body decoded hdecode =>
    rw [List.mem_singleton.1 he] at hcommand
    simp only [Duty.commands, hdecode]
    exact hcommand
  | intercepts i handler w req s span hspan =>
    rcases List.mem_append.1 he with he | hlast
    · rw [(Interceptor.followUp e he).commands_eq_nil] at hcommand
      cases hcommand
    · rw [List.mem_singleton.1 hlast] at hcommand
      cases hcommand
  | serves s req span hspan =>
    rw [(Service.followUp e he).commands_eq_nil] at hcommand
    cases hcommand
  | reports c payload span patience trace log =>
    cases patience with
    | goesOn => cases he
    | waits | cannotWait =>
      rw [List.mem_singleton.1 he] at hcommand
      cases hcommand
  | posts | waits =>
    rw [List.mem_singleton.1 he] at hcommand
    cases hcommand
  | _ => cases he

/-- Whatever is launched was asked for by a command in hand. -/
theorem of_launched (hs : Turn ended fresh h d left acts spawned after) (hd : d.IsMuted) :
    ∀ id ∈ acts.filterMap Act.launchedId?, ∃ command ∈ d.commands, command.id = id ∧
      ∃ kind, command.capture? = some kind := by
  intro id hid
  cases hs with
  | runs a next deeds after hs =>
    rw [filterMap_launchedId] at hid
    obtain ⟨task, htask, htaskId⟩ := List.mem_filterMap.1 hid
    obtain ⟨command, hcommand, hcommandId, hknown⟩ := (hs.of_commands hd.noAnswer).2 task htask
    exact ⟨command, hcommand, Option.some.inj (hcommandId.symm.trans htaskId), hknown⟩
  | _ => cases hid

/-- A command in hand of a known kind is registered or still in hand afterwards. -/
theorem registers (hs : Turn ended fresh h d left acts spawned after) :
    ∀ command ∈ d.commands, (∃ kind, command.capture? = some kind) →
      command.id ∈ after.commands.ids ∨ ∃ e ∈ left, command ∈ e.commands := by
  intro command hcommand hknown
  cases hs with
  | runs a next deeds after hs => exact hs.registers command hcommand hknown
  | decodes c body decoded hdecode =>
    simp only [Duty.commands, hdecode] at hcommand
    exact Or.inr ⟨_, List.mem_cons_self, hcommand⟩
  | garbles c body e log hdecode =>
    simp only [Duty.commands, hdecode] at hcommand
    cases hcommand
  | _ => cases hcommand

/-- A capture is taken when its duty is done. -/
theorem captures_eq (hs : Turn ended fresh h d left acts spawned after) :
    acts.filterMap Act.captured? ++ left.filterMap Duty.captureId? = d.captureId?.toList := by
  cases hs with
  | runs a next deeds after hs => exact hs.captures_eq
  | intercepts i handler w req s span hspan =>
    have hnone : (i.duties handler w req s span : List (Duty α σ)).filterMap Duty.captureId? = [] :=
      List.filterMap_eq_nil_iff.2 fun e he => (Interceptor.followUp e he).captureId?
    rw [List.filterMap_append, hnone]
    rfl
  | serves s req span hspan =>
    exact List.filterMap_eq_nil_iff.2 fun e he => (Service.followUp e he).captureId?
  | reports c payload span patience trace log => cases patience <;> rfl
  | _ => rfl

end Turn

namespace Undertaking

/-- Only an analysis has commands in hand at first, those of its reply. -/
theorem of_mem_commands {u : Undertaking α σ} {d : Duty α σ} (hd : d ∈ u.duties)
    {command : Command} (hcommand : command ∈ d.commands) :
    ∃ c body reply, u = .analyse c body ∧ CollectorReply.decode body = .ok reply ∧
      command ∈ reply.commands := by
  cases opens d hd with
  | decode c body =>
    cases hdecode : CollectorReply.decode body with
    | error e =>
      simp only [Duty.commands, hdecode] at hcommand
      cases hcommand
    | ok reply =>
      simp only [Duty.commands, hdecode] at hcommand
      exact ⟨c, body, reply, rfl, hdecode, hcommand⟩
  | run t => cases t <;> cases hcommand
  | _ => cases hcommand

theorem isMuted {u : Undertaking α σ} (hu : u.client.config.noPost = true) :
    ∀ d ∈ u.duties, d.IsMuted := by
  intro d hd
  refine ⟨fun c hc => ?_, ?_⟩
  · rw [client?_of_mem d hd c hc]
    exact hu
  · cases opens d hd with
    | run t => cases t <;> rfl
    | _ => rfl

theorem captureIds_of_ne_task {u : Undertaking α σ} (hu : ∀ t, u ≠ .task t) :
    u.duties.filterMap Duty.captureId? = [] := by
  rw [List.filterMap_eq_nil_iff]
  intro d hd
  cases opens d hd with
  | run t => exact absurd rfl (hu t)
  | _ => rfl

theorem captureIds_task (t : Task) :
    (task t : Undertaking α σ).duties.filterMap Duty.captureId? = t.commandId?.toList := by
  cases t <;> rfl

end Undertaking

/-- A job for a client that does not post. It has only launched what the commands asked for that it
had in hand at first. -/
structure Job.IsSilent (job : Job α σ) : Prop where
  muted : ∀ d ∈ job.todo, d.IsMuted
  commands : ∀ d ∈ job.todo, ∀ command ∈ d.commands,
    ∃ e ∈ job.origin.duties, command ∈ e.commands
  launched : ∀ id ∈ job.told Act.launchedId?, ∃ e ∈ job.origin.duties, ∃ command ∈ e.commands,
    command.id = id ∧ ∃ kind, command.capture? = some kind
  sent : job.told Act.sent? = []

theorem Job.isSilent_start {u : Undertaking α σ} (hu : u.client.config.noPost = true)
    (thread : Nat) : (start thread u).IsSilent :=
  ⟨u.isMuted hu, fun d hd _ hcommand => ⟨d, hd, hcommand⟩,
    fun _ hnone => absurd hnone List.not_mem_nil, rfl⟩

namespace Session

theorem kept_isSilent : Kept (Job.IsSilent (α := α) (σ := σ)) := by
  intro ended fresh host job d rest left acts spawned after hjob htodo hs
  have hmem : ∀ e ∈ d :: rest, e ∈ job.todo := by
    intro e he
    rwa [htodo]
  have hd := hjob.muted d (hmem d List.mem_cons_self)
  have hcommands := hjob.commands d (hmem d List.mem_cons_self)
  obtain ⟨hleft, hspawned⟩ := hs.isMuted hd
  refine ⟨⟨?_, ?_, ?_, ?_⟩,
    fun task htask => Job.isSilent_start (u := .task task) (hspawned task htask)⟩
  · intro e he
    rcases List.mem_append.1 he with he | he
    · exact hleft e he
    · exact hjob.muted e (hmem e (List.mem_cons_of_mem _ he))
  · intro e he command hcommand
    rcases List.mem_append.1 he with he | he
    · exact hcommands command (hs.of_commands hd e he command hcommand)
    · exact hjob.commands e (hmem e (List.mem_cons_of_mem _ he)) command hcommand
  · intro id hid
    rw [Job.told_goOn] at hid
    rcases List.mem_append.1 hid with hold | hnew
    · exact hjob.launched id hold
    · obtain ⟨command, hcommand, hwanted⟩ := hs.of_launched hd id hnew
      obtain ⟨e, he, hcommand⟩ := hcommands command hcommand
      exact ⟨e, he, command, hcommand, hwanted⟩
  · rw [Job.told_goOn, hjob.sent, hs.sent_eq_nil hd]
    rfl

/-- Whatever captures a job is there for have been taken or are still to be taken. -/
theorem kept_captures : Kept fun job : Job α σ =>
    job.told Act.captured? ++ job.todo.filterMap Duty.captureId? =
      job.origin.duties.filterMap Duty.captureId? := by
  intro ended fresh host job d rest left acts spawned after hjob htodo hs
  refine ⟨?_, fun task _ thread => rfl⟩
  have hd : [d].filterMap Duty.captureId? = d.captureId?.toList := by
    rw [List.filterMap_cons]
    cases d.captureId? <;> rfl
  rw [htodo, ← List.singleton_append, List.filterMap_append, hd, ← hs.captures_eq] at hjob
  show (job.goOn (left ++ rest) acts).told _ ++ (left ++ rest).filterMap _ =
    job.origin.duties.filterMap _
  rw [← hjob, Job.told_goOn, List.filterMap_append, List.append_assoc, List.append_assoc]

/-- The commands that a job had in hand at first are registered or still in hand. -/
def Handles (ids : List Int64) (job : Job α σ) : Prop :=
  ∀ e ∈ job.origin.duties, ∀ command ∈ e.commands, (∃ kind, command.capture? = some kind) →
    command.id ∈ ids ∨ ∃ d ∈ job.todo, command ∈ d.commands

theorem Handles.mono {ids more : List Int64} (hids : ids ⊆ more) {job : Job α σ}
    (hjob : Handles ids job) : Handles more job := by
  intro e he command hcommand hknown
  rcases hjob e he command hcommand hknown with hregistered | hpending
  · exact Or.inl (hids hregistered)
  · exact Or.inr hpending

theorem Handles.goOn {ended : Nat → Bool} {fresh : Nat} {host after : Host} {job : Job α σ}
    {d : Duty α σ} {rest left : List (Duty α σ)} {acts : List (Act α σ)} {spawned : List Task}
    (hjob : Handles host.commands.ids job) (htodo : job.todo = d :: rest)
    (hs : Turn ended fresh host d left acts spawned after) :
    Handles after.commands.ids (job.goOn (left ++ rest) acts) := by
  have hids : host.commands.ids ⊆ after.commands.ids := by
    rw [hs.ids_eq]
    exact List.subset_append_left _ _
  intro e he command hcommand hknown
  rcases hjob e he command hcommand hknown with hregistered | ⟨f, hf, hpending⟩
  · exact Or.inl (hids hregistered)
  · rw [htodo] at hf
    rcases List.mem_cons.1 hf with rfl | hlater
    · rcases hs.registers command hpending hknown with hregistered | ⟨f, hf, hpending⟩
      · exact Or.inl hregistered
      · exact Or.inr ⟨f, List.mem_append_left _ hf, hpending⟩
    · exact Or.inr ⟨f, List.mem_append_right _ hlater, hpending⟩

theorem handles_run (h : Host) (slots : Nat → BacktraceSlot String)
    (calls : List (Nat × Undertaking α σ)) (moves : List Nat) :
    ∀ job ∈ ((ofCalls h slots calls).run moves).jobs,
      Handles ((ofCalls h slots calls).run moves).host.commands.ids job := by
  apply run_induction (P := fun t => ∀ job ∈ t.jobs, Handles t.host.commands.ids job)
  · intro job hjob
    obtain ⟨call, -, rfl⟩ := List.mem_map.1 hjob
    exact fun e he command hcommand _ => Or.inr ⟨e, he, hcommand⟩
  · intro u index job d rest left acts spawned after hu hs other hother
    have hids : u.host.commands.ids ⊆ after.commands.ids := by
      rw [hs.turn.ids_eq]
      exact List.subset_append_left _ _
    rcases List.mem_append.1 hother with hold | hqueued
    · rcases List.mem_or_eq_of_mem_set hold with hmem | rfl
      · exact (hu other hmem).mono hids
      · have hbefore : Handles (u.seen job).commands.ids job :=
          hu job (List.mem_of_getElem? hs.getElem?)
        have hafter := hbefore.goOn hs.duties hs.turn
        exact hafter
    · obtain ⟨task, -, rfl⟩ := List.mem_map.1 hqueued
      exact fun e he command hcommand _ => Or.inr ⟨e, he, hcommand⟩

/-- The captures that the jobs are there for are those of the tasks. -/
theorem flatMap_captureIds {calls : List (Nat × Undertaking α σ)} {started : List Task}
    {jobs : List (Job α σ)} (hcalls : ∀ call ∈ calls, ∀ t, call.2 ≠ .task t)
    (horigins : jobs.map Job.origin = calls.map Prod.snd ++ started.map Undertaking.task) :
    (jobs.flatMap fun job => job.origin.duties.filterMap Duty.captureId?) =
      started.filterMap Task.commandId? := by
  have hnone : (calls.map Prod.snd).flatMap (fun u => u.duties.filterMap Duty.captureId?) = [] := by
    rw [List.flatMap_map, List.flatMap_eq_nil_iff]
    intro call hcall
    exact Undertaking.captureIds_of_ne_task (hcalls call hcall)
  calc (jobs.flatMap fun job => job.origin.duties.filterMap Duty.captureId?)
      = (jobs.map Job.origin).flatMap fun u => u.duties.filterMap Duty.captureId? := by
        rw [List.flatMap_map]
    _ = started.flatMap fun t => t.commandId?.toList := by
      rw [horigins, List.flatMap_append, hnone, List.nil_append, List.flatMap_map]
      exact List.flatMap_congr fun t _ => Undertaking.captureIds_task t
    _ = started.filterMap Task.commandId? := (List.filterMap_eq_flatMap_toList _ _).symm

theorem flatMap_sublist {f g : γ → List β} {l : List γ} (hl : ∀ x ∈ l, (f x).Sublist (g x)) :
    (l.flatMap f).Sublist (l.flatMap g) := by
  induction l with
  | nil => exact .slnil
  | cons x l ih =>
    rw [List.forall_mem_cons] at hl
    exact hl.1.append (ih hl.2)

/-- Captures are taken for what was launched, each for one launch. -/
theorem told_captured_le (h : Host) (slots : Nat → BacktraceSlot String)
    {calls : List (Nat × Undertaking α σ)} (hcalls : ∀ call ∈ calls, ∀ t, call.2 ≠ .task t)
    (moves : List Nat) :
    let t := (ofCalls h slots calls).run moves
    t.told Act.captured? ≤ t.told Act.launchedId? ∧
      (t.isOver = true → t.told Act.captured? = t.told Act.launchedId?) := by
  intro t
  obtain ⟨started, horigins, -, hids⟩ := exists_started_run h slots calls moves
  have hkept : ∀ job ∈ t.jobs, job.told Act.captured? ++ job.todo.filterMap Duty.captureId? =
      job.origin.duties.filterMap Duty.captureId? :=
    forall_jobs_run kept_captures (fun _ _ => rfl) moves
  rw [told_eq, ← hids, ← flatMap_captureIds hcalls horigins]
  refine ⟨?_, fun hover => ?_⟩
  · apply Multiset.coe_le.2
    apply List.Sublist.subperm
    apply flatMap_sublist
    intro job hjob
    rw [← hkept job hjob]
    exact List.sublist_append_left _ _
  · rw [List.flatMap_congr fun job hjob => ?_]
    have htodo := List.isEmpty_iff.1 (List.all_eq_true.1 hover job hjob)
    rw [← hkept job hjob, htodo, List.filterMap_nil, List.append_nil]

end Session

/-- Whether a call waits for its report. -/
def Undertaking.waits : Undertaking α σ → Bool
  | .reportAndWait .. | .reportBlocking .. => true
  | _ => false

theorem Undertaking.concluded_of_waits {u : Undertaking α σ} (hu : u.waits = true)
    {told : List (Act α σ)} (h : Prospect u.duties told) :
    told.filterMap Act.concluded? = [.finished] := by
  cases u with
  | reportAndWait c payload span | reportBlocking c caller payload span =>
    rw [h.eq_of_isSettled fun d hd => by cases opens d hd <;> rfl]
    rfl
  | _ => cases hu

namespace Session

/-- Calls of clients that do not post never reach the transport, however they and their tasks
interleave. All of them end if everybody's turn comes again and again, those that wait for a report
included. Nothing is registered but what the analysed replies asked for, all of which is registered
when the analysis has ended, and each launched capture is taken once. -/
theorem no_post_silences (h : Host) (slots : Nat → BacktraceSlot String)
    (calls : List (Nat × Undertaking α σ))
    (hcalls : ∀ call ∈ calls, call.2.client.config.noPost = true ∧ ∀ t, call.2 ≠ .task t) :
    let first := ofCalls h slots calls
    (∀ turns, Fair turns → ∃ n, (first.after turns n).isOver = true) ∧
    ∀ moves, let t := first.run moves
      t.host.posts = h.posts ∧
      (∃ launched : List Int64, t.host.commands.ids = h.commands.ids ++ launched ∧
        launched.Nodup ∧ (launched : Multiset Int64) = t.told Act.launchedId? ∧
        t.told Act.captured? ≤ (launched : Multiset Int64) ∧
        (t.isOver = true → t.told Act.captured? = (launched : Multiset Int64))) ∧
      (∀ job ∈ t.jobs, ∀ id ∈ job.told Act.launchedId?, ∃ c body reply,
        job.origin = .analyse c body ∧ CollectorReply.decode body = .ok reply ∧ reply.Asks id) ∧
      (∀ job ∈ t.jobs, job.todo = [] → ∀ c body reply, job.origin = .analyse c body →
        CollectorReply.decode body = .ok reply → ∀ id, reply.Asks id → id ∈ t.host.commands.ids) ∧
      (t.isOver = true → ∀ (k : Nat) call, calls[k]? = some call → call.2.waits = true →
        ∃ job, t.jobs[k]? = some job ∧ job.told Act.concluded? = [.finished]) := by
  intro first
  refine ⟨fun turns hfair => ends_of_fair h slots calls hfair, fun moves => ?_⟩
  intro t
  have hsilent : ∀ job ∈ t.jobs, job.IsSilent :=
    forall_jobs_run kept_isSilent
      (fun call hcall => Job.isSilent_start (hcalls call hcall).1 call.1) moves
  refine ⟨?_, ?_, ?_, ?_, ?_⟩
  · obtain ⟨sent, hposts, hsent⟩ := exists_sent_run h slots calls moves
    have hnone : t.jobs.flatMap (Job.told Act.sent?) = [] :=
      List.flatMap_eq_nil_iff.2 fun job hjob => (hsilent job hjob).sent
    rw [told_eq, hnone, Multiset.coe_nil, Multiset.coe_eq_zero] at hsent
    rw [hposts, hsent, List.append_nil]
  · obtain ⟨launched, hids, hlaunched⟩ := exists_launched_run h slots calls moves
    obtain ⟨hle, heq⟩ := told_captured_le h slots (fun call hcall => (hcalls call hcall).2) moves
    have hnodup := t.host.commands.nodup
    rw [hids] at hnodup
    refine ⟨launched, hids, (List.nodup_append.1 hnodup).2.1, hlaunched, ?_, ?_⟩
    · rw [hlaunched]
      exact hle
    · rw [hlaunched]
      exact heq
  · intro job hjob id hid
    obtain ⟨e, he, command, hcommand, rfl, hknown⟩ := (hsilent job hjob).launched id hid
    obtain ⟨c, body, reply, horigin, hdecode, hcommand⟩ := Undertaking.of_mem_commands he hcommand
    exact ⟨c, body, reply, horigin, hdecode, command, hcommand, rfl, hknown⟩
  · rintro job hjob htodo c body reply horigin hdecode id ⟨command, hcommand, rfl, hknown⟩
    have hmem : Duty.decode c body ∈ job.origin.duties := by
      rw [horigin]
      exact List.mem_cons_self
    have hcommand : command ∈ (Duty.decode c body : Duty α σ).commands := by
      simp only [Duty.commands, hdecode]
      exact hcommand
    rcases handles_run h slots calls moves job hjob _ hmem command hcommand hknown with
      hregistered | ⟨d, hd, -⟩
    · exact hregistered
    · rw [htodo] at hd
      cases hd
  · intro hover k call hcall hwaits
    obtain ⟨job, hjob, horigin⟩ := exists_job_of_call h slots moves hcall
    have hmem := List.mem_of_getElem? hjob
    have hpast := prospect_past hmem (List.isEmpty_iff.1 (List.all_eq_true.1 hover job hmem))
    rw [horigin] at hpast
    exact ⟨job, hjob, Undertaking.concluded_of_waits hwaits hpast⟩

/-- Two analyses of one reply race, and somebody waits for a report. -/
theorem no_post_silences_muted :
    let reply := (CollectorReply.mk ⟨"agent"⟩ [.ask 7 (.known .trace)]).encode
    let calls : List (Nat × Undertaking Unit Unit) :=
      [(0, .analyse .muted reply), (1, .analyse .muted reply),
        (2, .reportAndWait .muted (.literal "asked") 7)]
    let moves := [0, 1, 1, 2, 0, 2, 3, 3, 3, 4, 4, 2, 2, 0, 1]
    ((ofCalls (.fresh "") (fun _ => none) calls).run moves).host.posts = (Host.fresh "").posts ∧
      ((ofCalls (.fresh "") (fun _ => none) calls).run moves).told Act.captured? = {7} := by
  intro reply calls moves
  have hcalls : ∀ call ∈ calls, call.2.client.config.noPost = true ∧ ∀ t, call.2 ≠ .task t := by
    intro call hcall
    simp only [calls, List.mem_cons, List.not_mem_nil, or_false] at hcall
    rcases hcall with rfl | rfl | rfl <;> exact ⟨rfl, fun t ht => by cases ht⟩
  obtain ⟨hposts, ⟨launched, hids, -, -, -, hcaptured⟩, -⟩ :=
    (no_post_silences (.fresh "") (fun _ => none) calls hcalls).2 moves
  have hone : ((ofCalls (.fresh "") (fun _ => none) calls).run moves).host.commands.ids = [7] := by
    decide +kernel
  rw [hone] at hids
  refine ⟨hposts, ?_⟩
  rw [hcaptured (by decide +kernel), ← List.nil_append launched]
  exact congrArg Multiset.ofList hids.symm

end Session

end Telemetry
