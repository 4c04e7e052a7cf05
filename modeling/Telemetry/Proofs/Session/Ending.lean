import Mathlib.Data.Prod.Lex
import Mathlib.Logic.Hydra
import Telemetry.Proofs.Session.Run

/-!
Every session ends if nobody is left waiting for a turn for ever.

Each duty has a rank, and a step puts duties of lower ranks in the place of one duty, in its own job
and in those of the tasks that it queues. A reply may ask for any number of captures, so no number
bounds the steps beforehand, but the ranks of all duties together go down in a well-founded order.
Only a duty that waits for a task can be given a turn in vain, and that task can then go on. Main
statement: `ends_of_fair`.
-/
namespace Telemetry

/-- The rank of an activity. One that may look for commands is above the loop over them, and that is
above the captures that it launches. -/
def Activity.rank : Activity → ℕ ×ₗ ℕ
  | .counting _ => toLex (0, 2)
  | .recording _ => toLex (0, 1)
  | .takingOutcomes _ => toLex (2, 4)
  | .takingCounts .. => toLex (2, 3)
  | .capturing .. => toLex (0, 3)
  | .sending _ cargo => toLex (if cargo.seeksCommands then 2 else 0, 2)
  | .awaiting _ cargo _ => toLex (if cargo.seeksCommands then 2 else 0, 1)
  | .dispatching _ _ commands _ => toLex (1, commands.length)
  | .looking _ => toLex (0, 1)
  | .ended => toLex (0, 0)

def Duty.rank {α σ : Type} : Duty α σ → ℕ ×ₗ ℕ
  | .run a => a.rank
  | .post _ _ _ seeks => toLex (if seeks then 2 else 0, 2)
  | .hear _ _ seeks _ => toLex (if seeks then 2 else 0, 1)
  | .decode .. => toLex (2, 0)
  | .report .. => toLex (0, 4)
  | .intercept .. | .serve .. => toLex (0, 5)
  | .await _ => toLex (0, 1)
  | .read _ | .raise _ | .log _ | .conclude _ => toLex (0, 0)

theorem rank_lt_of_fst {a b c d : ℕ} (h : a < c) : toLex (a, b) < toLex (c, d) :=
  Prod.Lex.toLex_lt_toLex.2 (Or.inl h)

theorem rank_lt_of_snd {a b c : ℕ} (h : b < c) : toLex (a, b) < toLex (a, c) :=
  Prod.Lex.toLex_lt_toLex.2 (Or.inr ⟨rfl, h⟩)

/-- An activity goes on below its rank unless it ends, and launches below its rank. -/
theorem Effect.rank_lt {h after : Host} {a next : Activity} {deeds : List Deed}
    (hs : Effect h a next deeds after) :
    (next.isOver = false → next.rank < a.rank) ∧
      ∀ task ∈ deeds.filterMap Deed.task?, task.activity.rank < a.rank := by
  cases hs with
  | launches c agent command rest launched kind log hkind hnew =>
    refine ⟨fun _ => rank_lt_of_snd (Nat.lt_succ_self _), ?_⟩
    intro task htask
    cases List.mem_singleton.1 htask
    exact rank_lt_of_fst Nat.zero_lt_one
  | passes c agent command rest launched log hold =>
    exact ⟨fun _ => rank_lt_of_snd (Nat.lt_succ_self _),
      fun _ hnone => absurd hnone List.not_mem_nil⟩
  | hears c cargo reply decoded log hseeks hdecode =>
    refine ⟨fun _ => ?_, fun _ hnone => absurd hnone List.not_mem_nil⟩
    simp only [Activity.rank, hseeks, if_true]
    exact rank_lt_of_fst Nat.one_lt_two
  | counts r | takesOutcomes c | takesCounts c requests log hfull | posts c cargo headers hc =>
    exact ⟨fun _ => rank_lt_of_snd (by decide), fun _ hnone => absurd hnone List.not_mem_nil⟩
  | captures c id kind upload probes log =>
    exact ⟨fun _ => rank_lt_of_snd (by decide), fun _ hnone => absurd hnone List.not_mem_nil⟩
  | _ =>
    refine ⟨fun hgoes => ?_, fun _ hnone => absurd hnone List.not_mem_nil⟩
    cases hgoes

variable {α σ : Type}

theorem Duty.FollowUp.rank_lt {c : Client} {d : Duty α σ} (hd : d.FollowUp c) :
    d.rank < toLex (0, 5) := by
  cases hd <;> exact rank_lt_of_snd (by decide)

theorem Patience.rank_duties {patience : Patience} {task : Option Nat} {d : Duty α σ}
    (hd : d ∈ patience.duties task) : d.rank < toLex (0, 4) := by
  cases patience with
  | goesOn => cases hd
  | waits | cannotWait =>
    rw [List.mem_singleton.1 hd]
    exact rank_lt_of_snd (by decide)

theorem Task.rank_duties {t : Task} {r : ℕ ×ₗ ℕ} (ht : t.activity.rank < r) :
    ∀ d ∈ (Undertaking.task t : Undertaking α σ).duties, d.rank < r := by
  have hbottom : toLex (0, 0) < t.activity.rank := by
    cases t <;> exact rank_lt_of_snd (by decide)
  intro d hd
  simp only [Undertaking.duties, List.mem_cons, List.not_mem_nil, or_false] at hd
  rcases hd with rfl | rfl
  · exact ht
  · exact hbottom.trans ht

namespace Turn

variable {ended : Nat → Bool} {fresh : Nat} {h after : Host} {d : Duty α σ}
  {left : List (Duty α σ)} {acts : List (Act α σ)} {spawned : List Task}

/-- A step that is not in vain leaves duties of lower ranks, here and in the tasks it queues. -/
theorem rank_lt (hs : Turn ended fresh h d left acts spawned after) :
    (∃ task, d = .await (some task) ∧ ended task = false) ∨
      (∀ e ∈ left, e.rank < d.rank) ∧
        ∀ task ∈ spawned, ∀ e ∈ (Undertaking.task task : Undertaking α σ).duties,
          e.rank < d.rank := by
  have hnone : ∀ task ∈ ([] : List Task), ∀ e ∈ (Undertaking.task task : Undertaking α σ).duties,
      e.rank < d.rank := fun _ hnil => absurd hnil List.not_mem_nil
  cases hs with
  | waits task hover => exact Or.inl ⟨task, rfl, hover⟩
  | runs a next deeds after hs =>
    obtain ⟨hnext, hlaunched⟩ := hs.rank_lt
    refine Or.inr ⟨?_, fun task htask => Task.rank_duties (hlaunched task htask)⟩
    intro e he
    obtain ⟨hover, rfl⟩ := Duty.mem_goingOn.1 he
    exact hnext hover
  | posts c body url seeks headers hc =>
    refine Or.inr ⟨?_, hnone⟩
    intro e he
    rw [List.mem_singleton.1 he]
    exact rank_lt_of_snd (by decide)
  | hears c url reply decoded log hdecode =>
    refine Or.inr ⟨?_, hnone⟩
    intro e he
    rw [List.mem_singleton.1 he]
    exact rank_lt_of_fst (by decide)
  | decodes c body decoded hdecode =>
    refine Or.inr ⟨?_, hnone⟩
    intro e he
    rw [List.mem_singleton.1 he]
    exact rank_lt_of_fst (by decide)
  | intercepts i handler w req s span hspan =>
    refine Or.inr ⟨?_, hnone⟩
    intro e he
    rcases List.mem_append.1 he with he | hlast
    · exact (Interceptor.followUp e he).rank_lt
    · rw [List.mem_singleton.1 hlast]
      exact rank_lt_of_snd (by decide)
  | serves s req span hspan =>
    exact Or.inr ⟨fun e he => (Service.followUp e he).rank_lt, hnone⟩
  | reports c payload span patience trace log =>
    refine Or.inr ⟨fun _ he => Patience.rank_duties he, ?_⟩
    intro task htask
    apply Task.rank_duties
    unfold Client.reportTasks at htask
    cases hbackground : c.background with
    | gone =>
      rw [hbackground] at htask
      cases htask
    | running =>
      rw [hbackground] at htask
      rw [List.mem_singleton.1 htask]
      exact rank_lt_of_snd (by decide)
  | _ => exact Or.inr ⟨fun _ hnil => absurd hnil List.not_mem_nil, hnone⟩

end Turn

namespace Session

/-- The ranks of all that is left to do. -/
def ranks (t : Session α σ) : Multiset (ℕ ×ₗ ℕ) :=
  t.total fun job => (job.todo.map Duty.rank : Multiset (ℕ ×ₗ ℕ))

/-- A step that is not in vain replaces one rank by lower ones. -/
theorem ranks_commit {t : Session α σ} {index : Nat} {job : Job α σ} {d : Duty α σ}
    {rest left : List (Duty α σ)} {acts : List (Act α σ)} {spawned : List Task} {after : Host}
    (hs : t.Stepping index job d rest left acts spawned after)
    (hleft : ∀ e ∈ left, e.rank < d.rank)
    (hspawned : ∀ task ∈ spawned, ∀ e ∈ (Undertaking.task task : Undertaking α σ).duties,
      e.rank < d.rank) :
    Relation.CutExpand (· < ·) (t.commit index job (left ++ rest) acts spawned after).ranks
      t.ranks := by
  have htotal := total_commit (fun job => (job.todo.map Duty.rank : Multiset (ℕ ×ₗ ℕ)))
    hs.getElem? (left ++ rest) acts spawned after
  simp only [Job.goOn, Job.start, hs.duties, List.map_cons, List.map_append, ← Multiset.coe_add,
    ← Multiset.cons_coe, ← Multiset.singleton_add] at htotal
  refine ⟨(left.map Duty.rank : Multiset (ℕ ×ₗ ℕ)) + (spawned.map fun task =>
    (((Undertaking.task task : Undertaking α σ).duties.map Duty.rank : List (ℕ ×ₗ ℕ)) :
      Multiset (ℕ ×ₗ ℕ))).sum, d.rank, ?_, ?_⟩
  · intro r hr
    rcases Multiset.mem_add.1 hr with hr | hr
    · obtain ⟨e, he, rfl⟩ := List.mem_map.1 (Multiset.mem_coe.1 hr)
      exact hleft e he
    · rw [← Multiset.sum_coe] at hr
      obtain ⟨ranks, hranks, hr⟩ := Multiset.mem_join.1 hr
      obtain ⟨task, htask, rfl⟩ := List.mem_map.1 (Multiset.mem_coe.1 hranks)
      obtain ⟨e, he, rfl⟩ := List.mem_map.1 (Multiset.mem_coe.1 hr)
      exact hspawned task htask e he
  · apply add_right_cancel (b := (rest.map Duty.rank : Multiset (ℕ ×ₗ ℕ)))
    rw [add_assoc]
    refine htotal.trans ?_
    rw [ranks, ← add_assoc, add_right_comm, add_assoc (total _ t)]

end Session

/-! ### Nobody waits in vain -/

/-- Whether a duty waits for the task with a given number. -/
def Duty.waitsFor (task : Nat) : Duty α σ → Bool
  | .await (some other) => task == other
  | _ => false

/-- Whether a duty is of the kinds that a task has. -/
def Duty.isOfTask : Duty α σ → Bool
  | .run _ | .conclude _ => true
  | _ => false

def Job.isTask (job : Job α σ) : Bool :=
  match job.origin with
  | .task _ => true
  | _ => false

theorem Duty.FollowUp.waitsFor {c : Client} {d : Duty α σ} (hd : d.FollowUp c) (n : Nat) :
    d.waitsFor n = false := by
  cases hd <;> rfl

theorem Undertaking.not_waitsFor (u : Undertaking α σ) (n : Nat) :
    ∀ d ∈ u.duties, d.waitsFor n = false := by
  intro d hd
  cases opens d hd <;> rfl

namespace Turn

variable {ended : Nat → Bool} {fresh : Nat} {h after : Host} {d : Duty α σ}
  {left : List (Duty α σ)} {acts : List (Act α σ)} {spawned : List Task}

/-- Whoever waits has waited before or waits for the task that has just been queued. -/
theorem of_waitsFor (hs : Turn ended fresh h d left acts spawned after) {n : Nat} {e : Duty α σ}
    (he : e ∈ left) (hwaits : e.waitsFor n = true) :
    d.waitsFor n = true ∨ n = fresh ∧ ∃ task, spawned = [task] := by
  cases hs with
  | waits task hover =>
    rw [← List.mem_singleton.1 he]
    exact Or.inl hwaits
  | reports c payload span patience trace log =>
    cases patience with
    | goesOn => cases he
    | cannotWait =>
      rw [List.mem_singleton.1 he] at hwaits
      cases hwaits
    | waits =>
      rw [List.mem_singleton.1 he] at hwaits
      unfold Client.ticket at hwaits
      unfold Client.reportTasks
      cases hbackground : c.background with
      | gone =>
        rw [hbackground] at hwaits
        cases hwaits
      | running =>
        rw [hbackground] at hwaits
        exact Or.inr ⟨eq_of_beq hwaits, _, rfl⟩
  | intercepts i handler w req s span hspan =>
    rcases List.mem_append.1 he with he | hlast
    · cases ((Interceptor.followUp e he).waitsFor n).symm.trans hwaits
    · rw [List.mem_singleton.1 hlast] at hwaits
      cases hwaits
  | serves s req span hspan =>
    cases ((Service.followUp e he).waitsFor n).symm.trans hwaits
  | runs a next deeds after hs =>
    rw [(Duty.mem_goingOn.1 he).2] at hwaits
    cases hwaits
  | posts c body url seeks headers hc | hears c url reply decoded log hdecode
  | decodes c body decoded hdecode =>
    rw [List.mem_singleton.1 he] at hwaits
    cases hwaits
  | _ => cases he

theorem isOfTask (hs : Turn ended fresh h d left acts spawned after) (hd : d.isOfTask = true) :
    ∀ e ∈ left, e.isOfTask = true := by
  intro e he
  cases hs with
  | runs a next deeds after hs =>
    rw [(Duty.mem_goingOn.1 he).2]
    rfl
  | concludes upshot => cases he
  | _ => cases hd

end Turn

theorem Job.isTask_of_origin {job other : Job α σ} (h : job.origin = other.origin) :
    job.isTask = other.isTask := by
  rw [isTask, isTask, h]

namespace Session

theorem kept_isOfTask :
    Kept fun job : Job α σ => job.isTask = true → ∀ d ∈ job.todo, d.isOfTask = true := by
  intro ended fresh host job d rest left acts spawned after hjob htodo hs
  constructor
  · intro htask e he
    have hduties := hjob htask
    rw [htodo] at hduties
    rcases List.mem_append.1 he with hleft | hrest
    · exact hs.isOfTask (hduties d List.mem_cons_self) e hleft
    · exact hduties e (List.mem_cons_of_mem _ hrest)
  · intro task _ thread _ e he
    simp only [Job.start, Undertaking.duties, List.mem_cons, List.not_mem_nil, or_false] at he
    rcases he with rfl | rfl <;> rfl

/-- Whoever waits does so for a task that is there, and a task has only what tasks have to do. -/
structure Sound (t : Session α σ) : Prop where
  tickets : ∀ job ∈ t.jobs, ∀ d ∈ job.todo, ∀ n, d.waitsFor n = true →
    ∃ other, t.jobs[n]? = some other ∧ other.isTask = true
  tasks : ∀ job ∈ t.jobs, job.isTask = true → ∀ d ∈ job.todo, d.isOfTask = true

theorem sound_ofCalls (h : Host) (slots : Nat → BacktraceSlot String)
    (calls : List (Nat × Undertaking α σ)) : (ofCalls h slots calls).Sound := by
  constructor
  · intro job hjob d hd n hwaits
    obtain ⟨call, -, rfl⟩ := List.mem_map.1 hjob
    cases (call.2.not_waitsFor n d hd).symm.trans hwaits
  · intro job hjob htask d hd
    obtain ⟨⟨thread, u⟩, -, rfl⟩ := List.mem_map.1 hjob
    cases u with
    | task t =>
      simp only [Job.start, Undertaking.duties, List.mem_cons, List.not_mem_nil, or_false] at hd
      rcases hd with rfl | rfl <;> rfl
    | _ => cases htask

section Commit

variable {t : Session α σ} {index : Nat} {job : Job α σ} {d : Duty α σ}
  {rest left : List (Duty α σ)} {acts : List (Act α σ)} {spawned : List Task} {after : Host}

theorem Sound.commit (ht : t.Sound) (hs : t.Stepping index job d rest left acts spawned after) :
    (t.commit index job (left ++ rest) acts spawned after).Sound := by
  have hmem := List.mem_of_getElem? hs.getElem?
  have hstays : ∀ n : Nat, (∃ other : Job α σ, t.jobs[n]? = some other ∧ other.isTask = true) →
      ∃ other : Job α σ,
        (t.commit index job (left ++ rest) acts spawned after).jobs[n]? = some other ∧
          other.isTask = true := by
    rintro n ⟨other, hother, htask⟩
    obtain ⟨same, hsame, horigin⟩ := exists_job_commit hs.getElem? (left ++ rest) acts spawned after
      hother
    exact ⟨same, hsame, (Job.isTask_of_origin horigin).trans htask⟩
  refine ⟨?_, kept_isOfTask.commit ht.tasks hs⟩
  intro other hother e he n hwaits
  rcases List.mem_append.1 hother with hold | hqueued
  · rcases List.mem_or_eq_of_mem_set hold with hthere | rfl
    · exact hstays n (ht.tickets other hthere e he n hwaits)
    · have hduties := ht.tickets job hmem
      rw [hs.duties] at hduties
      rcases List.mem_append.1 he with hleft | hrest
      · rcases hs.turn.of_waitsFor hleft hwaits with hbefore | ⟨rfl, task, rfl⟩
        · exact hstays n (hduties d List.mem_cons_self n hbefore)
        · refine ⟨.start job.thread (.task task), ?_, rfl⟩
          rw [Session.commit, List.getElem?_append_right (by rw [List.length_set])]
          rw [List.length_set, Nat.sub_self]
          rfl
      · exact hstays n (hduties e (List.mem_cons_of_mem _ hrest) n hwaits)
  · obtain ⟨task, -, rfl⟩ := List.mem_map.1 hqueued
    cases ((Undertaking.task task).not_waitsFor n e he).symm.trans hwaits

/-- A step in vain changes nothing. -/
theorem commit_of_waits (hs : t.Stepping index job d rest left acts spawned after) {task : Nat}
    (hd : d = .await (some task)) (hover : t.isDone task = false) :
    t.commit index job (left ++ rest) acts spawned after = t := by
  obtain ⟨hjob, htodo, hturn⟩ := hs
  subst hd
  cases hturn with
  | arrives task hdone => cases hover.symm.trans hdone
  | waits task hdone =>
    have hsame : job.goOn (Duty.await (some task) :: rest) [] = job := by
      rw [Job.goOn, ← htodo, List.append_nil]
    obtain ⟨hlt, hget⟩ := List.getElem?_eq_some_iff.1 hjob
    simp only [commit, List.singleton_append, hsame, List.map_nil, List.append_nil, seen,
      Function.update_eq_self]
    rw [← hget, List.set_getElem_self]

end Commit

/-- A move makes the ranks go down or changes nothing. -/
theorem move_eq_or_lt (t : Session α σ) (index : Nat) :
    t.move index = t ∨ Relation.CutExpand (· < ·) (t.move index).ranks t.ranks := by
  rcases t.move_cases index with ⟨-, hsame⟩ |
    ⟨job, d, rest, left, acts, spawned, after, hs, hmove⟩
  · exact Or.inl hsame
  · rw [hmove]
    rcases hs.turn.rank_lt with ⟨task, hd, hover⟩ | ⟨hleft, hspawned⟩
    · exact Or.inl (commit_of_waits hs hd hover)
    · exact Or.inr (ranks_commit hs hleft hspawned)

theorem Sound.move {t : Session α σ} (ht : t.Sound) (index : Nat) : (t.move index).Sound := by
  rcases t.move_cases index with ⟨-, hsame⟩ |
    ⟨job, d, rest, left, acts, spawned, after, hs, hmove⟩
  · rwa [hsame]
  · rw [hmove]
    exact ht.commit hs

/-- A job whose next duty is not a wait in vain goes on. -/
theorem move_lt {t : Session α σ} {index : Nat} {job : Job α σ} {d : Duty α σ}
    {rest : List (Duty α σ)} (hjob : t.jobs[index]? = some job) (htodo : job.todo = d :: rest)
    (hd : ∀ task, d = .await (some task) → t.isDone task = true) :
    Relation.CutExpand (· < ·) (t.move index).ranks t.ranks := by
  rcases t.move_cases index with ⟨hdone | hnobody, -⟩ |
    ⟨own, first, others, left, acts, spawned, after, hs, hmove⟩
  · simp only [isDone, hjob, htodo, List.isEmpty_cons, Bool.false_eq_true] at hdone
  · have hlt := (List.getElem?_eq_some_iff.1 hjob).1
    omega
  · cases hjob.symm.trans hs.getElem?
    cases htodo.symm.trans hs.duties
    rw [hmove]
    rcases hs.turn.rank_lt with ⟨task, hwaits, hover⟩ | ⟨hleft, hspawned⟩
    · cases hover.symm.trans (hd task hwaits)
    · exact ranks_commit hs hleft hspawned

theorem exists_duties_of_isDone_eq_false {t : Session α σ} {index : Nat} {job : Job α σ}
    (hjob : t.jobs[index]? = some job) (hdone : t.isDone index = false) :
    ∃ d rest, job.todo = d :: rest := by
  simp only [isDone, hjob] at hdone
  exact List.ne_nil_iff_exists_cons.1 (List.isEmpty_eq_false_iff.1 hdone)

/-- As long as something is left to do, somebody can do it. -/
theorem Sound.exists_lt {t : Session α σ} (ht : t.Sound) (hover : t.isOver = false) :
    ∃ index, Relation.CutExpand (· < ·) (t.move index).ranks t.ranks := by
  obtain ⟨job, hmem, hleft⟩ := List.all_eq_false.1 hover
  obtain ⟨index, hjob⟩ := List.getElem?_of_mem hmem
  obtain ⟨d, rest, htodo⟩ := exists_duties_of_isDone_eq_false hjob (by
    simpa only [isDone, hjob, Bool.not_eq_true] using hleft)
  by_cases hwaits : ∃ task, d = .await (some task) ∧ t.isDone task = false
  · -- the task that is waited for waits for nobody
    obtain ⟨task, rfl, hdone⟩ := hwaits
    obtain ⟨other, hother, htask⟩ := ht.tickets job hmem (.await (some task))
      (by rw [htodo]; exact List.mem_cons_self) task (beq_self_eq_true task)
    obtain ⟨first, others, htodo⟩ := exists_duties_of_isDone_eq_false hother hdone
    refine ⟨task, move_lt hother htodo ?_⟩
    rintro ticket rfl
    have hfirst := ht.tasks other (List.mem_of_getElem? hother) htask _
      (by rw [htodo]; exact List.mem_cons_self)
    cases hfirst
  · refine ⟨index, move_lt hjob htodo ?_⟩
    rintro task rfl
    by_contra hdone
    exact hwaits ⟨task, rfl, Bool.eq_false_iff.2 hdone⟩

/-- What a session is after some of the turns that are dealt out. -/
def after (turns : Nat → Nat) (count : Nat) (t : Session α σ) : Session α σ :=
  t.run ((List.range count).map turns)

/-- Turns are dealt out so that everybody's comes up again and again. -/
def Fair (turns : Nat → Nat) : Prop :=
  ∀ index n, ∃ m, n ≤ m ∧ turns m = index

theorem Fair.shift {turns : Nat → Nat} (h : Fair turns) (k : Nat) :
    Fair fun n => turns (k + n) := by
  intro index n
  obtain ⟨m, hm, hturn⟩ := h index (k + n)
  refine ⟨m - k, by omega, ?_⟩
  have hm : k + (m - k) = m := by omega
  simp only [hm, hturn]

theorem after_add (turns : Nat → Nat) (k n : Nat) (t : Session α σ) :
    t.after turns (k + n) = (t.after turns k).after (fun i => turns (k + i)) n := by
  simp only [after, run, List.range_add, List.map_append, List.foldl_append, List.map_map,
    Function.comp_def]

theorem after_succ (turns : Nat → Nat) (n : Nat) (t : Session α σ) :
    t.after turns (n + 1) = (t.after turns n).move (turns n) := by
  simp only [after, run, List.range_succ, List.map_append, List.foldl_append, List.map_cons,
    List.map_nil, List.foldl_cons, List.foldl_nil]

theorem after_of_idle {turns : Nat → Nat} {t : Session α σ} {n : Nat}
    (hidle : ∀ m < n, t.move (turns m) = t) : t.after turns n = t := by
  induction n with
  | zero => rfl
  | succ n ih =>
    rw [after_succ, ih fun m hm => hidle m (Nat.lt_succ_of_lt hm), hidle n (Nat.lt_succ_self n)]

theorem cutExpand_wf : WellFounded (Relation.CutExpand ((· < ·) : ℕ ×ₗ ℕ → ℕ ×ₗ ℕ → Prop)) :=
  WellFounded.cutExpand wellFounded_lt

theorem Sound.ends_of_fair {t : Session α σ} (ht : t.Sound) {turns : Nat → Nat}
    (hfair : Fair turns) : ∃ n, (t.after turns n).isOver = true := by
  -- by induction on the ranks: up to the first turn that is not in vain nothing changes
  induction hranks : t.ranks using cutExpand_wf.induction generalizing t turns with
  | _ ranks ih =>
    subst hranks
    cases hover : t.isOver with
    | true => exact ⟨0, hover⟩
    | false =>
      obtain ⟨index, hlt⟩ := ht.exists_lt hover
      have hsome : ∃ m, t.move (turns m) ≠ t := by
        obtain ⟨m, -, rfl⟩ := hfair index 0
        refine ⟨m, fun hsame => ?_⟩
        rw [hsame] at hlt
        exact cutExpand_wf.irrefl.irrefl _ hlt
      classical
      have hidle : t.after turns (Nat.find hsome) = t :=
        after_of_idle fun m hm => not_not.1 (Nat.find_min hsome hm)
      have hless := (t.move_eq_or_lt (turns (Nat.find hsome))).resolve_left (Nat.find_spec hsome)
      obtain ⟨n, hn⟩ := ih _ hless (ht.move _) (hfair.shift (Nat.find hsome + 1)) rfl
      refine ⟨Nat.find hsome + 1 + n, ?_⟩
      rw [after_add, after_succ, hidle]
      exact hn

/-- If everybody's turn comes again and again, everything that was undertaken ends. -/
theorem ends_of_fair (h : Host) (slots : Nat → BacktraceSlot String)
    (calls : List (Nat × Undertaking α σ)) {turns : Nat → Nat} (hfair : Fair turns) :
    ∃ n, ((ofCalls h slots calls).after turns n).isOver = true :=
  (sound_ofCalls h slots calls).ends_of_fair hfair

end Session

end Telemetry
