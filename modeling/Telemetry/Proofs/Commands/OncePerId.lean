import Telemetry.Proofs.Traffic.Run

/-!
Each command is launched once, whoever handles the replies.

Any number of loops go over the commands of replies at one time, each with a client of the family,
all of them at the one registry of the host. Which loop launches a command that several replies
carry depends on the order of the moves. How many captures are launched for an id, and which ids are
registered in the end, does not: the registry only ever grows by the ids of the tasks launched
(`Registered`), so its having no id twice bounds the launches.
-/
namespace Telemetry

/-- A reply asks for a capture under an id. Commands of unknown kinds ask for nothing. -/
def CollectorReply.Asks (reply : CollectorReply) (id : Int64) : Prop :=
  ∃ command ∈ reply.commands, command.id = id ∧ ∃ kind, command.capture? = some kind

namespace Traffic

/-- Replies that are being handled at one time, each by a client. -/
def ofReplies (h : Host) (replies : List (Client × CollectorReply)) : Traffic :=
  ofCalls h (replies.map fun r => .dispatch r.1 r.2)

/-- A task is the capture that a command of one of the replies asks for, by that reply's client. -/
def Answers (replies : List (Client × CollectorReply)) (task : Task) : Prop :=
  ∃ r ∈ replies, ∃ command ∈ r.2.commands, ∃ kind, command.capture? = some kind ∧
    task = .capture r.1 command.id kind

/-- What holds while replies are being handled. A loop has got past a command of a known kind only
once its id was registered, by that loop or by another one. -/
structure Raced (replies : List (Client × CollectorReply)) (t : Traffic) : Prop where
  counts : t.total Activity.launchCount = t.launches.length
  answers : ∀ task ∈ t.launches, Answers replies task
  loops : ∀ (i : Nat) (r : Client × CollectorReply), replies[i]? = some r →
    ∃ (done rest : List Command) (launched : Nat), r.2.commands = done ++ rest ∧
      t.activities[i]? = some (.dispatching r.1 r.2.agent rest launched) ∧
      ∀ command ∈ done, ∀ kind, command.capture? = some kind → command.id ∈ t.host.commands.ids
  others : ∀ (i : Nat) (a : Activity), replies.length ≤ i → t.activities[i]? = some a →
    a.mayLaunch = false
  length : replies.length ≤ t.activities.length

theorem raced_ofReplies (h : Host) (replies : List (Client × CollectorReply)) :
    Raced replies (ofReplies h replies) := by
  have hact : (ofReplies h replies).activities =
      replies.map fun r => .dispatching r.1 r.2.agent r.2.commands 0 := by
    simp only [ofReplies, ofCalls, List.map_map]
    rfl
  refine ⟨?_, ?_, ?_, ?_, ?_⟩
  · exact total_ofCalls (by intro call; cases call <;> rfl) h _
  · intro task htask
    cases htask
  · intro i r hr
    refine ⟨[], r.2.commands, 0, rfl, ?_, ?_⟩
    · rw [hact, List.getElem?_map, hr]
      rfl
    · intro command hcommand
      cases hcommand
  · intro i a hi ha
    have hlt := (List.getElem?_eq_some_iff.1 ha).1
    simp only [hact, List.length_map] at hlt
    omega
  · simp only [hact, List.length_map, Nat.le_refl]

namespace Raced

variable {replies : List (Client × CollectorReply)} {t : Traffic} {i : Nat}

/-- Starting a background task is no business of the loops. -/
theorem start (ht : Raced replies t) (task : Task) : Raced replies (t.start i task) := by
  have hlength := ht.length
  refine ⟨?_, ht.answers, ?_, ?_, ?_⟩
  · rw [total_start_of_eq_zero (by cases task <;> rfl), ht.counts]
    rfl
  · intro j r hr
    obtain ⟨done, rest, launched, hsplit, hact, hdone⟩ := ht.loops j r hr
    refine ⟨done, rest, launched, hsplit, ?_, hdone⟩
    rw [getElem?_start_of_lt (List.getElem?_eq_some_iff.1 hact).1, hact]
  · intro j a hj ha
    by_cases hlt : j < t.activities.length
    · rw [getElem?_start_of_lt hlt] at ha
      exact ht.others j a hj ha
    · rw [eq_of_getElem?_start (Nat.le_of_not_lt hlt) ha]
      cases task <;> rfl
  · rw [length_start]
    omega

/-- A step of somebody who handles no reply is no business of the loops either. -/
theorem advance_other (ht : Raced replies t) {a : Activity} (hi : replies.length ≤ i)
    (ha : t.activities[i]? = some a) : Raced replies (t.advance i a) := by
  have hmay := ht.others i a hi ha
  obtain ⟨hnext, htasks, -⟩ := (a.effect t.host).of_not_mayLaunch hmay
  have hlaunches : (t.advance i a).launches = t.launches := by
    rw [launches_advance, htasks, List.append_nil]
  refine ⟨?_, ?_, ?_, ?_, ?_⟩
  · have htotal := total_advance Activity.launchCount ha
    have hcounts := ht.counts
    rw [Activity.launchCount_of_not_mayLaunch hmay,
      Activity.launchCount_of_not_mayLaunch hnext] at htotal
    rw [hlaunches]
    omega
  · rw [hlaunches]
    exact ht.answers
  · intro j r hr
    obtain ⟨done, rest, launched, hsplit, hact, hdone⟩ := ht.loops j r hr
    have hij : i ≠ j := by
      have hj := (List.getElem?_eq_some_iff.1 hr).1
      omega
    refine ⟨done, rest, launched, hsplit, ?_, ?_⟩
    · rw [getElem?_advance_of_ne hij, hact]
    · intro command hcommand kind hkind
      exact mem_ids_advance i a t (hdone command hcommand kind hkind)
  · intro j b hj hb
    by_cases hij : i = j
    · subst hij
      rw [getElem?_advance_self ha, Option.some.injEq] at hb
      rw [← hb]
      exact hnext
    · rw [getElem?_advance_of_ne hij] at hb
      exact ht.others j b hj hb
  · rw [length_advance]
    exact ht.length

/-- The loops after one of them has handled a command, which is registered by now if its kind is
known. -/
theorem loops_advance (ht : Raced replies t) {r : Client × CollectorReply} {command : Command}
    {rest : List Command} {launched more : Nat} (hr : replies[i]? = some r) {a : Activity}
    (ha : t.activities[i]? = some a)
    (hloop : a = .dispatching r.1 r.2.agent (command :: rest) launched)
    (hnext : (a.step t.host).1 = .dispatching r.1 r.2.agent rest more)
    (hnow : ∀ kind, command.capture? = some kind →
      command.id ∈ (t.advance i a).host.commands.ids)
    {j : Nat} {s : Client × CollectorReply} (hs : replies[j]? = some s) :
    ∃ (done rest : List Command) (launched : Nat), s.2.commands = done ++ rest ∧
      (t.advance i a).activities[j]? = some (.dispatching s.1 s.2.agent rest launched) ∧
      ∀ command ∈ done, ∀ kind, command.capture? = some kind →
        command.id ∈ (t.advance i a).host.commands.ids := by
  obtain ⟨done, left, count, hsplit, hact, hdone⟩ := ht.loops j s hs
  by_cases hij : i = j
  · subst hij
    rw [hr, Option.some.injEq] at hs
    subst hs
    rw [ha, hloop] at hact
    cases hact
    refine ⟨done ++ [command], rest, more, ?_, ?_, ?_⟩
    · rw [hsplit, List.append_assoc]
      rfl
    · rw [getElem?_advance_self ha, hnext]
    · -- what was behind the loop stays registered, and the command it has just handled joins it
      intro other hother kind hkind
      rcases List.mem_append.1 hother with hold | hnew
      · exact mem_ids_advance i a t (hdone other hold kind hkind)
      · rw [List.mem_singleton.1 hnew] at hkind ⊢
        exact hnow kind hkind
  · refine ⟨done, left, count, hsplit, ?_, ?_⟩
    · rw [getElem?_advance_of_ne hij, hact]
    · intro other hother kind hkind
      exact mem_ids_advance i a t (hdone other hother kind hkind)

/-- A loop handles its next command. -/
theorem advance_loop (ht : Raced replies t) {a : Activity} (hi : i < replies.length)
    (ha : t.activities[i]? = some a) : Raced replies (t.advance i a) := by
  have hr : replies[i]? = some replies[i] := List.getElem?_eq_getElem hi
  obtain ⟨done, rest, launched, hsplit, hact, hdone⟩ := ht.loops i _ hr
  rw [ha, Option.some.injEq] at hact
  cases rest with
  | nil =>
    -- a loop at its end only marks time
    rw [advance_of_idle ha (by rw [hact]; rfl)]
    exact ht
  | cons command rest =>
    have heffect := a.effect t.host
    obtain ⟨hnext, hnow⟩ := (hact ▸ heffect).of_dispatching
    refine ⟨?_, ?_, ?_, ?_, ?_⟩
    · have htotal := total_advance Activity.launchCount ha
      have hcounts := ht.counts
      have hbefore : a.launchCount = launched := by rw [hact]; rfl
      rw [← hact] at hnext
      rw [hnext, hbefore] at htotal
      change _ = _ + (launched + _) at htotal
      rw [launches_advance, List.length_append]
      omega
    · intro task htask
      rw [launches_advance] at htask
      rcases List.mem_append.1 htask with hold | hnew
      · exact ht.answers task hold
      · obtain ⟨c, agent, other, more, count, kind, hloop, hkind, rfl⟩ := heffect.of_mem_tasks hnew
        rw [hact] at hloop
        cases hloop
        refine ⟨replies[i], List.getElem_mem hi, command, ?_, kind, hkind, rfl⟩
        rw [hsplit]
        exact List.mem_append_right _ List.mem_cons_self
    · intro j s hs
      rw [← hact] at hnext hnow
      exact ht.loops_advance hr ha hact hnext hnow hs
    · intro j b hj hb
      have hij : i ≠ j := by omega
      rw [getElem?_advance_of_ne hij] at hb
      exact ht.others j b hj hb
    · rw [length_advance]
      exact ht.length

end Raced

theorem raced_run (h : Host) (replies : List (Client × CollectorReply)) (moves : List Move) :
    Raced replies ((ofReplies h replies).run moves) := by
  apply run_induction (raced_ofReplies h replies)
  · intro t i a ht ha
    by_cases hi : i < replies.length
    · exact ht.advance_loop hi ha
    · exact ht.advance_other (Nat.le_of_not_lt hi) ha
  · intro t i task ht _
    exact ht.start task

/-- Whether the first so many activities have run to their ends. -/
def firstOver (count : Nat) (t : Traffic) : Bool :=
  (t.activities.take count).all Activity.isOver

/-- A loop that has run to its end has got past every command of its reply. -/
theorem Raced.mem_ids_of_asks {replies : List (Client × CollectorReply)} {t : Traffic}
    (ht : Raced replies t) (hover : t.firstOver replies.length = true)
    {r : Client × CollectorReply} (hr : r ∈ replies) {id : Int64} (hid : r.2.Asks id) :
    id ∈ t.host.commands.ids := by
  obtain ⟨i, hi, rfl⟩ := List.mem_iff_getElem.1 hr
  obtain ⟨done, rest, launched, hsplit, hact, hdone⟩ :=
    ht.loops i replies[i] (List.getElem?_eq_getElem hi)
  have hmem : Activity.dispatching replies[i].1 replies[i].2.agent rest launched ∈
      t.activities.take replies.length := by
    apply List.mem_of_getElem? (i := i)
    rw [List.getElem?_take_of_lt hi, hact]
  have hended := List.all_eq_true.1 hover _ hmem
  obtain ⟨command, hcommand, rfl, kind, hkind⟩ := hid
  cases rest with
  | nil =>
    rw [hsplit, List.append_nil] at hcommand
    exact hdone command hcommand kind hkind
  | cons next rest => cases hended

/-- The registry holds the ids it held at first and those that the replies ask for, whichever loop
came first. -/
theorem mem_ids_run (h : Host) (replies : List (Client × CollectorReply)) (moves : List Move)
    (hover : ((ofReplies h replies).run moves).firstOver replies.length = true) (id : Int64) :
    id ∈ ((ofReplies h replies).run moves).host.commands.ids ↔
      id ∈ h.commands.ids ∨ ∃ r ∈ replies, r.2.Asks id := by
  have ht := raced_run h replies moves
  have hregistered : Registered h ((ofReplies h replies).run moves) := registered_run h _ moves
  constructor
  · intro hid
    rw [hregistered.ids] at hid
    rcases List.mem_append.1 hid with hold | hnew
    · exact Or.inl hold
    · obtain ⟨task, htask, htaskId⟩ := List.mem_filterMap.1 hnew
      obtain ⟨r, hr, command, hcommand, kind, hkind, rfl⟩ := ht.answers task htask
      cases htaskId
      exact Or.inr ⟨r, hr, command, hcommand, rfl, kind, hkind⟩
  · rintro (hold | ⟨r, hr, hasks⟩)
    · rw [hregistered.ids]
      exact List.mem_append_left _ hold
    · exact ht.mem_ids_of_asks hover hr hasks

/-- Once every loop over the commands of a reply has run to its end, each id that was asked for and
was new has been launched exactly once and all others not at all; the loops have counted exactly
the tasks launched, and so has the registry; and which ids are registered does not depend on the
order of the moves. Queued tasks may be started and go on meanwhile. -/
theorem launched_once_per_id (h : Host) (replies : List (Client × CollectorReply))
    (moves : List Move)
    (hover : ((ofReplies h replies).run moves).firstOver replies.length = true) :
    let t := (ofReplies h replies).run moves
    (∀ task ∈ t.launches, Answers replies task) ∧
    (∀ id, t.launchedIds.count id ≤ 1) ∧
    (∀ id, t.launchedIds.count id = 1 ↔
      id ∉ h.commands.ids ∧ ∃ r ∈ replies, r.2.Asks id) ∧
    t.total Activity.launchCount = t.launches.length ∧
    t.host.commands.size = h.commands.size + t.launches.length ∧
    (∀ id, t.host.commands.isRunning id = true ↔
      h.commands.isRunning id = true ∨ ∃ r ∈ replies, r.2.Asks id) ∧
    ∀ others, ((ofReplies h replies).run others).firstOver replies.length = true →
      ((ofReplies h replies).run others).host.commands.ids.Perm t.host.commands.ids := by
  intro t
  have ht : Raced replies t := raced_run h replies moves
  have hregistered : Registered h t := registered_run h _ moves
  have hmem := mem_ids_run h replies moves hover
  have hnodup := t.host.commands.nodup
  rw [hregistered.ids, List.nodup_append] at hnodup
  obtain ⟨-, hlaunched, hdisjoint⟩ := hnodup
  refine ⟨ht.answers, ?_, ?_, ht.counts, ?_, ?_, ?_⟩
  · exact List.nodup_iff_count.1 hlaunched
  · intro id
    have hid := hmem id
    rw [hregistered.ids, List.mem_append] at hid
    rw [hlaunched.count]
    by_cases hnow : id ∈ t.launchedIds
    · have hnew : id ∉ h.commands.ids := fun hold => hdisjoint id hold id hnow rfl
      have hasked := (hid.1 (Or.inr hnow)).resolve_left hnew
      simp only [hnow, if_true, true_iff]
      exact ⟨hnew, hasked⟩
    · simp only [hnow, if_false, Nat.zero_ne_one, false_iff, not_and]
      intro hnew hasked
      exact (hid.2 (Or.inr hasked)).elim hnew hnow
  · simp only [CommandRegistry.size, hregistered.ids, List.length_append, hregistered.captures]
  · intro id
    simp only [CommandRegistry.isRunning, decide_eq_true_eq]
    exact hmem id
  · intro others hothers
    apply (List.perm_ext_iff_of_nodup (CommandRegistry.nodup _) t.host.commands.nodup).2
    intro id
    rw [mem_ids_run h replies others hothers, hmem]

theorem launched_once_per_id_two_loops :
    let replies : List (Client × CollectorReply) :=
      [(.unreached, ⟨⟨"agent"⟩, [⟨7, "trace", true, false⟩, ⟨8, "reboot", true, false⟩]⟩),
        (.unreached, ⟨⟨"agent"⟩, [⟨7, "mem-profile", true, false⟩]⟩)]
    let t := (ofReplies (.fresh "") replies).run [.advance 1, .start 0, .advance 0, .advance 0]
    t.firstOver 2 = true ∧ t.launchedIds.count 7 = 1 ∧
      t.host.commands.size = t.launches.length := by
  intro replies t
  have hover : t.firstOver 2 = true := by decide
  obtain ⟨-, -, hone, -, hsize, -⟩ := launched_once_per_id (.fresh "") replies
    [.advance 1, .start 0, .advance 0, .advance 0] hover
  refine ⟨hover, (hone 7).2 ⟨by decide, ?_⟩, hsize.trans (Nat.zero_add _)⟩
  exact ⟨_, List.mem_cons_self, _, List.mem_cons_self, rfl, .trace, by decide⟩

end Traffic

end Telemetry
