import Mathlib.Data.List.Basic
import Telemetry.Proofs.Client.Sending

/-!
Which commands of a reply are launched.

The loop over a reply carries the registry along. `Command.due` says what it launches from the list
alone: at each place a capture if the command there asks for one under an id that is neither
registered nor asked for further ahead. Commands of unknown kinds ask for nothing, so they neither
start anything nor stand in the way of anything.
-/
namespace Telemetry

namespace Command

/-- One of the commands asks for a capture under an id. -/
def Asked (commands : List Command) (id : Int64) : Prop :=
  ∃ command ∈ commands, command.id = id ∧ command.capture?.isSome = true

instance (commands : List Command) (id : Int64) : Decidable (Asked commands id) :=
  inferInstanceAs (Decidable (∃ command ∈ commands, command.id = id ∧ command.capture?.isSome))

theorem asked_cons {command : Command} {commands : List Command} {id : Int64} :
    Asked (command :: commands) id ↔
      command.id = id ∧ command.capture?.isSome = true ∨ Asked commands id := by
  simp only [Asked, List.mem_cons, exists_eq_or_imp]

/-- What the command at a place of a reply launches, `registered` being the ids from before. -/
def dueAt? (registered : List Int64) (commands : List Command) (place : Nat) :
    Option (Int64 × CaptureKind) := do
  let command ← commands[place]?
  let kind ← command.capture?
  if command.id ∈ registered ∨ Asked (commands.take place) command.id then none
  else some (command.id, kind)

/-- What the commands of a reply launch, in their order. -/
def due (registered : List Int64) (commands : List Command) : List (Int64 × CaptureKind) :=
  (List.range commands.length).filterMap (dueAt? registered commands)

section

variable {command : Command} {registered : List Int64}

/-- To the later commands it is all one whether a command that asks comes before them or its id is
registered. -/
theorem due_cons {after : List Int64}
    (hafter : ∀ id, id ∈ after ↔
      id ∈ registered ∨ command.id = id ∧ command.capture?.isSome = true) (rest : List Command) :
    due registered (command :: rest) =
      (dueAt? registered (command :: rest) 0).toList ++ due after rest := by
  have hcovered : ∀ place id,
      (id ∈ registered ∨ Asked ((command :: rest).take (place + 1)) id) ↔
        id ∈ after ∨ Asked (rest.take place) id := by
    intro place id
    rw [List.take_succ_cons, asked_cons, hafter, or_assoc]
  have hlater : ∀ place, dueAt? registered (command :: rest) (place + 1) =
      dueAt? after rest place := by
    intro place
    simp only [dueAt?, List.getElem?_cons_succ, hcovered]
  have htail : (List.range rest.length).filterMap
      (dueAt? registered (command :: rest) ∘ Nat.succ) = due after rest :=
    List.filterMap_congr fun place _ => hlater place
  rw [due, List.length_cons, List.range_succ_eq_map, List.filterMap_cons, List.filterMap_map, htail]
  cases dueAt? registered (command :: rest) 0 <;> rfl

/-- The first command asks for something new. -/
theorem due_cons_of_new {kind : CaptureKind} (hcapture : command.capture? = some kind)
    (hnew : command.id ∉ registered) (rest : List Command) :
    due registered (command :: rest) =
      (command.id, kind) :: due (registered ++ [command.id]) rest := by
  have hhead : dueAt? registered (command :: rest) 0 = some (command.id, kind) := by
    have hfirst : ¬ (command.id ∈ registered ∨ Asked [] command.id) := by
      rintro (hmem | ⟨other, hother, -⟩)
      · exact hnew hmem
      · cases hother
    simp only [dueAt?, List.getElem?_cons_zero, Option.bind_eq_bind, Option.bind_some, hcapture,
      List.take_zero]
    exact if_neg hfirst
  have hafter : ∀ id, id ∈ registered ++ [command.id] ↔
      id ∈ registered ∨ command.id = id ∧ command.capture?.isSome = true := by
    intro id
    simp only [List.mem_append, List.mem_singleton, hcapture, Option.isSome_some, and_true, eq_comm]
  rw [due_cons hafter, hhead]
  rfl

/-- The first command asks for nothing, or for nothing new. -/
theorem due_cons_of_passed
    (hpassed : ∀ kind, command.capture? = some kind → command.id ∈ registered)
    (rest : List Command) : due registered (command :: rest) = due registered rest := by
  have hhead : dueAt? registered (command :: rest) 0 = none := by
    simp only [dueAt?, List.getElem?_cons_zero, Option.bind_eq_bind, Option.bind_some]
    cases hcapture : command.capture? with
    | none => rfl
    | some kind => exact if_pos (Or.inl (hpassed kind hcapture))
  have hafter : ∀ id, id ∈ registered ↔
      id ∈ registered ∨ command.id = id ∧ command.capture?.isSome = true := by
    intro id
    constructor
    · exact Or.inl
    · rintro (hmem | ⟨rfl, hasks⟩)
      · exact hmem
      · obtain ⟨kind, hcapture⟩ := Option.isSome_iff_exists.1 hasks
        exact hpassed kind hcapture
  rw [due_cons hafter, hhead]
  rfl

end

/-- Commands of unknown kinds make no difference. -/
theorem due_filter (registered : List Int64) (commands : List Command) :
    due registered (commands.filter fun command => command.capture?.isSome) =
      due registered commands := by
  induction commands generalizing registered with
  | nil => rfl
  | cons command rest ih =>
    cases hcapture : command.capture? with
    | none =>
      rw [List.filter_cons_of_neg (by simp [hcapture]), ih,
        due_cons_of_passed fun kind hkind => by cases hcapture.symm.trans hkind]
    | some kind =>
      rw [List.filter_cons_of_pos (by simp [hcapture])]
      by_cases hmem : command.id ∈ registered
      · rw [due_cons_of_passed fun _ _ => hmem, due_cons_of_passed fun _ _ => hmem, ih]
      · rw [due_cons_of_new hcapture hmem, due_cons_of_new hcapture hmem, ih]

/-- The ids that are registered in the end are those from before and all that were asked for. -/
theorem mem_registered_due (registered : List Int64) (commands : List Command) (id : Int64) :
    id ∈ registered ++ (due registered commands).map Prod.fst ↔
      id ∈ registered ∨ Asked commands id := by
  induction commands generalizing registered with
  | nil => simp [due, Asked]
  | cons command rest ih =>
    rw [asked_cons]
    by_cases hpassed : ∀ kind, command.capture? = some kind → command.id ∈ registered
    · rw [due_cons_of_passed hpassed, ih]
      constructor
      · exact Or.imp_right Or.inr
      · rintro (hmem | ⟨rfl, hasks⟩ | hasked)
        · exact Or.inl hmem
        · obtain ⟨kind, hcapture⟩ := Option.isSome_iff_exists.1 hasks
          exact Or.inl (hpassed kind hcapture)
        · exact Or.inr hasked
    · obtain ⟨kind, hasks⟩ := not_forall.1 hpassed
      obtain ⟨hcapture, hnew⟩ := Classical.not_imp.1 hasks
      rw [due_cons_of_new hcapture hnew, List.map_cons, List.append_cons, ih, List.mem_append,
        List.mem_singleton, or_assoc, hcapture, Option.isSome_some, and_iff_left rfl, eq_comm]

end Command

namespace Client

theorem dispatch_append (c : Client) (agent : Agent) (commands more : List Command) (h : Host) :
    c.dispatch agent (commands ++ more) h =
      ((c.dispatch agent commands h).1 + (c.dispatch agent more (c.dispatch agent commands h).2).1,
        (c.dispatch agent more (c.dispatch agent commands h).2).2) := by
  induction commands generalizing h with
  | nil =>
    simp only [List.nil_append, dispatch, Nat.zero_add]
  | cons command rest ih =>
    simp only [List.cons_append, dispatch, ih, Nat.add_assoc]

/-- All that a dispatch changes. -/
theorem dispatch_eq (c : Client) (agent : Agent) (commands : List Command) (h : Host) :
    ∃ registry log,
      registry.ids = h.commands.ids ++ (Command.due h.commands.ids commands).map Prod.fst ∧
      c.dispatch agent commands h =
        ((Command.due h.commands.ids commands).length,
          { h with
            commands := registry
            tasks := h.tasks ++
              (Command.due h.commands.ids commands).map fun d => .capture c d.1 d.2
            log := log }) := by
  induction commands generalizing h with
  | nil => exact ⟨h.commands, h.log, (List.append_nil _).symm, by simp [dispatch, Command.due]⟩
  | cons command rest ih =>
    rcases c.dispatchOne_cases agent command h with
      ⟨kind, log, hkind, hnew, hone⟩ | ⟨hpassed, log, hone⟩
    · have hdue := Command.due_cons_of_new hkind hnew rest
      obtain ⟨registry, final, hids, hrest⟩ := ih
        { h with
          commands := (h.commands.tryStart command.id).2
          tasks := h.tasks ++ [.capture c command.id kind]
          log := log }
      simp only [CommandRegistry.ids_tryStart hnew] at hids hrest
      refine ⟨registry, final, ?_, ?_⟩
      · rw [hdue, hids, List.append_assoc]
        rfl
      · simp only [dispatch, hone, hrest, hdue, if_true, List.length_cons, List.map_cons,
          List.append_assoc, List.singleton_append, Nat.add_comm]
    · have hdue : Command.due h.commands.ids (command :: rest) =
          Command.due h.commands.ids rest :=
        Command.due_cons_of_passed hpassed rest
      obtain ⟨registry, final, hids, hrest⟩ := ih { h with log := log }
      refine ⟨registry, final, ?_, ?_⟩
      · rw [hdue]
        exact hids
      · simp only [dispatch, hone, hrest, hdue, Bool.false_eq_true, if_false, Nat.zero_add]

/-- What one reply launches: at each place of its list a capture of the command's own kind, if that
kind is known and the id is neither registered nor asked for further ahead in the list. The ids
asked for are registered from then on, and no others. Commands of unknown kinds may as well be left
out. A list may be dispatched in two parts, one after the other. -/
theorem launches_of_reply (c : Client) (agent : Agent) (commands : List Command) (h : Host) :
    let launched := Command.due h.commands.ids commands
    let dispatched := c.dispatch agent commands h
    dispatched.1 = launched.length ∧
    dispatched.2.tasks = h.tasks ++ launched.map (fun d => .capture c d.1 d.2) ∧
    dispatched.2.commands.ids = h.commands.ids ++ launched.map Prod.fst ∧
    (∀ id, dispatched.2.commands.isRunning id = true ↔
      h.commands.isRunning id = true ∨ Command.Asked commands id) ∧
    (let known := c.dispatch agent (commands.filter fun command => command.capture?.isSome) h
     known.1 = dispatched.1 ∧ known.2.tasks = dispatched.2.tasks ∧
       known.2.commands.ids = dispatched.2.commands.ids) ∧
    ∀ more, c.dispatch agent (commands ++ more) h =
      (dispatched.1 + (c.dispatch agent more dispatched.2).1,
        (c.dispatch agent more dispatched.2).2) := by
  intro launched dispatched
  obtain ⟨registry, log, hids, hdispatch⟩ := c.dispatch_eq agent commands h
  have hregistered : dispatched.2.commands.ids = h.commands.ids ++ launched.map Prod.fst := by
    simp only [dispatched, hdispatch, hids, launched]
  refine ⟨congrArg Prod.fst hdispatch, congrArg (fun d => d.2.tasks) hdispatch, hregistered, ?_, ?_,
    fun more => c.dispatch_append agent commands more h⟩
  · intro id
    simp only [CommandRegistry.isRunning, decide_eq_true_eq, hregistered]
    exact Command.mem_registered_due h.commands.ids commands id
  · intro known
    obtain ⟨_, _, hsame, hknown⟩ :=
      c.dispatch_eq agent (commands.filter fun command => command.capture?.isSome) h
    rw [Command.due_filter] at hsame hknown
    refine ⟨?_, ?_, ?_⟩
    · simp only [known, dispatched, hknown, hdispatch]
    · simp only [known, dispatched, hknown, hdispatch]
    · simp only [known, hknown, hsame, hregistered, launched]

/-- Unknown kinds, an id from before and one that comes twice. -/
example : Command.due [3] [⟨7, "reboot", true, false⟩, ⟨3, "trace", true, false⟩,
    ⟨7, "trace", true, false⟩, ⟨8, "cpu-profile", true, false⟩, ⟨7, "mem-profile", true, false⟩] =
      [(7, .trace), (8, .cpuProfile)] := by
  decide

end Client

end Telemetry
