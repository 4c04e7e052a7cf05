import Mathlib.Algebra.BigOperators.Group.List.Basic
import Mathlib.Algebra.Order.Group.Multiset
import Telemetry.Proofs.Session.Turn

/-!
Undertakings that take turns.

A session is a host with the jobs that are in progress at it, each on a thread. A move lets one job
do one step of its first duty, so the lists of moves are all the ways in which jobs can interleave.
Tasks become jobs of their own as soon as they are queued; what was queued before stays queued.
Main statements: what every step keeps holds after every run (`run_induction`), also what each job
keeps of itself alone (`forall_jobs_run`), sums over jobs change by what the step changes
(`total_commit`), and what a list of the host has gained is what the jobs tell of
(`exists_gained_run`).
-/
namespace Telemetry

/-- An undertaking in progress: what is left to do for it, and what can be told of it so far. -/
structure Job (α σ : Type) where
  origin : Undertaking α σ
  thread : Nat
  todo : List (Duty α σ)
  past : List (Act α σ)

namespace Job

variable {α σ : Type}

def start (thread : Nat) (origin : Undertaking α σ) : Job α σ :=
  ⟨origin, thread, origin.duties, []⟩

/-- A job after a step. -/
def goOn (todo : List (Duty α σ)) (acts : List (Act α σ)) (job : Job α σ) : Job α σ :=
  { job with todo, past := job.past ++ acts }

/-- What can be told of a job, by one sort of act. -/
def told (f : Act α σ → Option β) (job : Job α σ) : List β :=
  job.past.filterMap f

theorem told_start (f : Act α σ → Option β) (thread : Nat) (origin : Undertaking α σ) :
    (start thread origin).told f = [] := rfl

theorem told_goOn (f : Act α σ → Option β) (todo : List (Duty α σ)) (acts : List (Act α σ))
    (job : Job α σ) : (job.goOn todo acts).told f = job.told f ++ acts.filterMap f :=
  List.filterMap_append

end Job

/-- A host, the slots of the threads and the jobs in progress. -/
structure Session (α σ : Type) where
  host : Host
  slots : Nat → BacktraceSlot String
  jobs : List (Job α σ)

namespace Session

variable {α σ : Type}

/-- Calls that have been made on some threads and have not done anything yet. -/
def ofCalls (h : Host) (slots : Nat → BacktraceSlot String)
    (calls : List (Nat × Undertaking α σ)) : Session α σ :=
  ⟨h, slots, calls.map fun call => .start call.1 call.2⟩

/-- Whether a job has ended. -/
def isDone (t : Session α σ) (index : Nat) : Bool :=
  match t.jobs[index]? with
  | some job => job.todo.isEmpty
  | none => false

/-- Whether nothing is left to do. -/
def isOver (t : Session α σ) : Bool :=
  t.jobs.all (·.todo.isEmpty)

/-- The host as a job sees it, with the slot of its own thread. -/
def seen (t : Session α σ) (job : Job α σ) : Host :=
  { t.host with slot := t.slots job.thread }

/-- Takes note of a step: what the job has left to do, what it has done and queued, and the host
that it has left. -/
def commit (index : Nat) (job : Job α σ) (todo : List (Duty α σ)) (acts : List (Act α σ))
    (spawned : List Task) (after : Host) (t : Session α σ) : Session α σ where
  host := { after with tasks := t.host.tasks, slot := t.host.slot }
  slots := Function.update t.slots job.thread after.slot
  jobs := t.jobs.set index (job.goOn todo acts) ++
    spawned.map fun task => .start job.thread (.task task)

/-- Lets a job do a step; nothing happens if it has ended or is not there. -/
def move (t : Session α σ) (index : Nat) : Session α σ :=
  match t.jobs[index]? with
  | none => t
  | some job =>
    match job.todo with
    | [] => t
    | d :: rest =>
      let (left, acts, after) := d.step t.isDone t.jobs.length (t.seen job)
      t.commit index job (left ++ rest) acts (after.tasks.drop t.host.tasks.length) after

def run (t : Session α σ) (moves : List Nat) : Session α σ :=
  moves.foldl move t

/-- A step that a job of a session does. -/
structure Stepping (t : Session α σ) (index : Nat) (job : Job α σ) (d : Duty α σ)
    (rest left : List (Duty α σ)) (acts : List (Act α σ)) (spawned : List Task)
    (after : Host) : Prop where
  getElem? : t.jobs[index]? = some job
  duties : job.todo = d :: rest
  turn : Turn t.isDone t.jobs.length (t.seen job) d left acts spawned after

/-- A move is a step of the job, or it is nobody's. -/
theorem move_cases (t : Session α σ) (index : Nat) :
    (t.isDone index = true ∨ t.jobs.length ≤ index) ∧ t.move index = t ∨
      ∃ job d rest left acts spawned after,
        t.Stepping index job d rest left acts spawned after ∧
          t.move index = t.commit index job (left ++ rest) acts spawned after := by
  cases hjob : t.jobs[index]? with
  | none =>
    refine Or.inl ⟨Or.inr (List.getElem?_eq_none_iff.1 hjob), ?_⟩
    simp only [move, hjob]
  | some job =>
    cases htodo : job.todo with
    | nil =>
      refine Or.inl ⟨Or.inl ?_, ?_⟩
      · simp only [isDone, hjob, htodo, List.isEmpty_nil]
      · simp only [move, hjob, htodo]
    | cons d rest =>
      refine Or.inr ⟨job, d, rest, _, _, _, _, ⟨hjob, htodo, d.turn (t.seen job)⟩, ?_⟩
      simp only [move, hjob, htodo]
      rfl

/-- What holds at first and after each step holds after each run. -/
theorem run_induction {P : Session α σ → Prop} {t : Session α σ} (hstart : P t)
    (hstep : ∀ u index job d rest left acts spawned after, P u →
      u.Stepping index job d rest left acts spawned after →
        P (u.commit index job (left ++ rest) acts spawned after))
    (moves : List Nat) : P (t.run moves) := by
  induction moves generalizing t with
  | nil => exact hstart
  | cons index moves ih =>
    apply ih
    rcases t.move_cases index with ⟨-, hsame⟩ |
      ⟨job, d, rest, left, acts, spawned, after, hs, hmove⟩
    · rw [hsame]
      exact hstart
    · rw [hmove]
      exact hstep t index job d rest left acts spawned after hstart hs

/-! ### Who is there -/

/-- A property that each job keeps of itself, and that a task has when it is queued. -/
def Kept (P : Job α σ → Prop) : Prop :=
  ∀ ended fresh host job d rest left acts spawned after, P job → job.todo = d :: rest →
    Turn ended fresh host d left acts spawned after →
      P (job.goOn (left ++ rest) acts) ∧
        ∀ task ∈ spawned, ∀ thread, P (.start thread (.task task))

theorem Kept.commit {P : Job α σ → Prop} (hP : Kept P) {t : Session α σ} {index : Nat}
    {job : Job α σ} {d : Duty α σ} {rest left : List (Duty α σ)} {acts : List (Act α σ)}
    {spawned : List Task} {after : Host} (ht : ∀ job ∈ t.jobs, P job)
    (hs : t.Stepping index job d rest left acts spawned after) :
    ∀ other ∈ (t.commit index job (left ++ rest) acts spawned after).jobs, P other := by
  have hjob := ht job (List.mem_of_getElem? hs.getElem?)
  obtain ⟨hown, hnew⟩ := hP _ _ _ _ _ _ _ _ _ _ hjob hs.duties hs.turn
  intro other hother
  rcases List.mem_append.1 hother with hold | hqueued
  · rcases List.mem_or_eq_of_mem_set hold with hmem | rfl
    · exact ht other hmem
    · exact hown
  · obtain ⟨task, htask, rfl⟩ := List.mem_map.1 hqueued
    exact hnew task htask job.thread

/-- What a duty passes on to the duties that it leaves, every job keeps of all its duties. -/
theorem kept_duties {q : Duty α σ → Prop}
    (hq : ∀ ended fresh host d left acts spawned after, q d →
      Turn ended fresh host d left acts spawned after → (∀ e ∈ left, q e) ∧
        ∀ task ∈ spawned, ∀ e ∈ (Undertaking.task task : Undertaking α σ).duties, q e) :
    Kept fun job : Job α σ => ∀ d ∈ job.todo, q d := by
  intro ended fresh host job d rest left acts spawned after hjob htodo hs
  rw [htodo] at hjob
  obtain ⟨hleft, hspawned⟩ := hq _ _ _ _ _ _ _ _ (hjob d List.mem_cons_self) hs
  refine ⟨fun e he => ?_, fun task htask _ => hspawned task htask⟩
  rcases List.mem_append.1 he with he | he
  · exact hleft e he
  · exact hjob e (List.mem_cons_of_mem _ he)

theorem forall_jobs_run {P : Job α σ → Prop} (hP : Kept P) {h : Host}
    {slots : Nat → BacktraceSlot String} {calls : List (Nat × Undertaking α σ)}
    (hcalls : ∀ call ∈ calls, P (.start call.1 call.2)) (moves : List Nat) :
    ∀ job ∈ ((ofCalls h slots calls).run moves).jobs, P job := by
  apply run_induction (P := fun t => ∀ job ∈ t.jobs, P job)
  · intro job hjob
    obtain ⟨call, hcall, rfl⟩ := List.mem_map.1 hjob
    exact hcalls call hcall
  · intro u index job d rest left acts spawned after hu hs
    exact hP.commit hu hs

/-- Whoever is there stays, in its place, and the tasks that have been queued come after. -/
theorem origins_commit {t : Session α σ} {index : Nat} {job : Job α σ}
    (hjob : t.jobs[index]? = some job) (todo : List (Duty α σ)) (acts : List (Act α σ))
    (spawned : List Task) (after : Host) :
    (t.commit index job todo acts spawned after).jobs.map Job.origin =
      t.jobs.map Job.origin ++ spawned.map Undertaking.task := by
  obtain ⟨hlt, hget⟩ := List.getElem?_eq_some_iff.1 hjob
  have hset : (t.jobs.set index (job.goOn todo acts)).map Job.origin = t.jobs.map Job.origin := by
    rw [List.map_set]
    apply List.ext_getElem?
    intro i
    by_cases hindex : index = i
    · subst hindex
      rw [List.getElem?_set_self (by rwa [List.length_map]), List.getElem?_map, hjob]
      rfl
    · rw [List.getElem?_set_ne hindex]
  rw [commit, List.map_append, hset, List.map_map]
  rfl

theorem exists_job_commit {t : Session α σ} {index : Nat} {job : Job α σ}
    (hjob : t.jobs[index]? = some job) (todo : List (Duty α σ)) (acts : List (Act α σ))
    (spawned : List Task) (after : Host) {i : Nat} {other : Job α σ}
    (hother : t.jobs[i]? = some other) :
    ∃ same, (t.commit index job todo acts spawned after).jobs[i]? = some same ∧
      same.origin = other.origin := by
  have hlt := (List.getElem?_eq_some_iff.1 hother).1
  have horigin : ((t.commit index job todo acts spawned after).jobs.map Job.origin)[i]? =
      some other.origin := by
    rw [origins_commit hjob, List.getElem?_append_left (by rwa [List.length_map]),
      List.getElem?_map, hother]
    rfl
  rw [List.getElem?_map] at horigin
  exact Option.map_eq_some_iff.1 horigin

theorem getElem?_commit_of_ne {t : Session α σ} {index i : Nat} (hi : i ≠ index) {other : Job α σ}
    (hother : t.jobs[i]? = some other) (job : Job α σ) (todo : List (Duty α σ))
    (acts : List (Act α σ)) (spawned : List Task) (after : Host) :
    (t.commit index job todo acts spawned after).jobs[i]? = some other := by
  have hlt := (List.getElem?_eq_some_iff.1 hother).1
  rw [commit, List.getElem?_append_left (by rwa [List.length_set]), List.getElem?_set_ne hi.symm,
    hother]

/-- The others leave a job as it is. -/
theorem getElem?_move_of_ne {t : Session α σ} {index i : Nat} (hi : i ≠ index) {other : Job α σ}
    (hother : t.jobs[i]? = some other) : (t.move index).jobs[i]? = some other := by
  rcases t.move_cases index with ⟨-, hsame⟩ | ⟨_, _, _, _, _, _, _, -, hmove⟩
  · rwa [hsame]
  · rw [hmove]
    exact getElem?_commit_of_ne hi hother ..

/-- The jobs after a step: the one that did it in its place, and the tasks that it has queued. -/
theorem jobs_move {t : Session α σ} {index : Nat} {job : Job α σ} {d : Duty α σ}
    {rest : List (Duty α σ)} (hjob : t.jobs[index]? = some job) (htodo : job.todo = d :: rest) :
    let done := d.step t.isDone t.jobs.length (t.seen job)
    (t.move index).jobs = t.jobs.set index (job.goOn (done.1 ++ rest) done.2.1) ++
      (done.2.2.tasks.drop t.host.tasks.length).map fun task => .start job.thread (.task task) := by
  simp only [move, hjob, htodo]
  rfl

theorem getElem?_move {t : Session α σ} {index : Nat} {job : Job α σ} {d : Duty α σ}
    {rest : List (Duty α σ)} (hjob : t.jobs[index]? = some job) (htodo : job.todo = d :: rest) :
    let done := d.step t.isDone t.jobs.length (t.seen job)
    (t.move index).jobs[index]? = some (job.goOn (done.1 ++ rest) done.2.1) := by
  have hlt := (List.getElem?_eq_some_iff.1 hjob).1
  intro done
  rw [jobs_move hjob htodo, List.getElem?_append_left (by rwa [List.length_set]),
    List.getElem?_set_self hlt]

theorem isDone_iff {t : Session α σ} {index : Nat} :
    t.isDone index = true ↔ ∃ job, t.jobs[index]? = some job ∧ job.todo = [] := by
  cases hjob : t.jobs[index]? with
  | none => simp [isDone, hjob]
  | some job => simp [isDone, hjob]

theorem move_of_isDone {t : Session α σ} {index : Nat} (hdone : t.isDone index = true) :
    t.move index = t := by
  obtain ⟨job, hjob, htodo⟩ := isDone_iff.1 hdone
  simp only [move, hjob, htodo]

/-- What has ended has ended for good. -/
theorem isDone_move {t : Session α σ} {i : Nat} (hdone : t.isDone i = true) (index : Nat) :
    (t.move index).isDone i = true := by
  by_cases hi : i = index
  · rwa [← hi, move_of_isDone hdone]
  · obtain ⟨job, hjob, htodo⟩ := isDone_iff.1 hdone
    exact isDone_iff.2 ⟨job, getElem?_move_of_ne hi hjob, htodo⟩

theorem exists_job_move {t : Session α σ} {i : Nat} {job : Job α σ} (hjob : t.jobs[i]? = some job)
    (index : Nat) : ∃ same, (t.move index).jobs[i]? = some same ∧ same.origin = job.origin := by
  rcases t.move_cases index with ⟨-, hsame⟩ | ⟨_, _, _, _, _, _, _, hs, hmove⟩
  · rw [hsame]
    exact ⟨job, hjob, rfl⟩
  · rw [hmove]
    exact exists_job_commit hs.getElem? _ _ _ _ hjob

theorem exists_job_run {t : Session α σ} {i : Nat} {job : Job α σ} (hjob : t.jobs[i]? = some job)
    (moves : List Nat) : ∃ same, (t.run moves).jobs[i]? = some same ∧ same.origin = job.origin := by
  induction moves generalizing t job with
  | nil => exact ⟨job, hjob, rfl⟩
  | cons index moves ih =>
    obtain ⟨same, hsame, horigin⟩ := exists_job_move hjob index
    obtain ⟨last, hlast, hlater⟩ := ih hsame
    exact ⟨last, hlast, hlater.trans horigin⟩

theorem run_append (t : Session α σ) (before later : List Nat) :
    t.run (before ++ later) = (t.run before).run later :=
  List.foldl_append

theorem run_snoc (t : Session α σ) (moves : List Nat) (index : Nat) :
    t.run (moves ++ [index]) = (t.run moves).move index :=
  run_append t moves [index]

/-! ### Sums over jobs -/

section Total

variable {M : Type*} [AddCommMonoid M]

/-- The sum of a quantity over the jobs. -/
def total (f : Job α σ → M) (t : Session α σ) : M :=
  (t.jobs.map f).sum

theorem sum_map_set (f : Job α σ → M) {jobs : List (Job α σ)} {index : Nat} {job : Job α σ}
    (hjob : jobs[index]? = some job) (other : Job α σ) :
    ((jobs.set index other).map f).sum + f job = (jobs.map f).sum + f other := by
  induction jobs generalizing index with
  | nil => cases hjob
  | cons first rest ih =>
    cases index with
    | zero =>
      cases hjob
      simp only [List.set_cons_zero, List.map_cons, List.sum_cons]
      exact add_right_comm _ _ _ |>.trans (by rw [add_comm (f other), add_right_comm])
    | succ index =>
      simp only [List.set_cons_succ, List.map_cons, List.sum_cons, add_assoc, ih hjob]

theorem total_commit (f : Job α σ → M) {t : Session α σ} {index : Nat} {job : Job α σ}
    (hjob : t.jobs[index]? = some job) (todo : List (Duty α σ)) (acts : List (Act α σ))
    (spawned : List Task) (after : Host) :
    (t.commit index job todo acts spawned after).total f + f job =
      t.total f + f (job.goOn todo acts) +
        (spawned.map fun task => f (.start job.thread (.task task))).sum := by
  have hset := sum_map_set f hjob (job.goOn todo acts)
  simp only [total, commit, List.map_append, List.sum_append, List.map_map, Function.comp_def]
  rw [add_right_comm, hset]

theorem total_ofCalls {f : Job α σ → M} (hf : ∀ thread origin, f (.start thread origin) = 0)
    (h : Host) (slots : Nat → BacktraceSlot String) (calls : List (Nat × Undertaking α σ)) :
    (ofCalls h slots calls).total f = 0 := by
  apply List.sum_eq_zero
  intro x hx
  obtain ⟨job, hjob, rfl⟩ := List.mem_map.1 hx
  obtain ⟨call, -, rfl⟩ := List.mem_map.1 hjob
  exact hf call.1 call.2

/-- A quantity that every job has by what it has undertaken. -/
theorem total_of_origins {f : Job α σ → M} {g : Undertaking α σ → M} {t : Session α σ}
    (hjobs : ∀ job ∈ t.jobs, f job = g job.origin) :
    t.total f = ((t.jobs.map Job.origin).map g).sum := by
  rw [total, List.map_map]
  exact congrArg List.sum (List.map_congr_left hjobs)

end Total

/-- All that can be told of the jobs, by one sort of act. -/
def told (f : Act α σ → Option β) (t : Session α σ) : Multiset β :=
  t.total fun job => (job.told f : Multiset β)

theorem told_commit (f : Act α σ → Option β) {t : Session α σ} {index : Nat} {job : Job α σ}
    (hjob : t.jobs[index]? = some job) (todo : List (Duty α σ)) (acts : List (Act α σ))
    (spawned : List Task) (after : Host) :
    (t.commit index job todo acts spawned after).told f =
      t.told f + (acts.filterMap f : Multiset β) := by
  have htotal := total_commit (fun job => (job.told f : Multiset β)) hjob todo acts spawned after
  simp only [Job.told_goOn, Job.told_start, ← Multiset.coe_add, Multiset.coe_nil,
    List.map_const', List.sum_replicate, nsmul_zero, add_zero, ← add_assoc] at htotal
  rw [add_right_comm] at htotal
  exact add_right_cancel htotal

theorem told_ofCalls (f : Act α σ → Option β) (h : Host) (slots : Nat → BacktraceSlot String)
    (calls : List (Nat × Undertaking α σ)) : (ofCalls h slots calls).told f = 0 :=
  total_ofCalls (fun _ _ => rfl) h slots calls

theorem told_eq (f : Act α σ → Option β) (t : Session α σ) :
    t.told f = (t.jobs.flatMap (Job.told f) : List β) := by
  rw [told, total]
  induction t.jobs with
  | nil => rfl
  | cons job rest ih => rw [List.map_cons, List.sum_cons, ih, List.flatMap_cons, Multiset.coe_add]

theorem mem_told {f : Act α σ → Option β} {t : Session α σ} {x : β} :
    x ∈ t.told f ↔ ∃ job ∈ t.jobs, x ∈ job.told f := by
  rw [told_eq, Multiset.mem_coe, List.mem_flatMap]

theorem card_told (f : Act α σ → Option β) (t : Session α σ) :
    (t.told f).card = t.total fun job => (job.told f).length := by
  rw [told_eq, Multiset.coe_card, List.length_flatMap, total]

theorem told_map {f : Act α σ → Option β} {g : Act α σ → Option γ} {k : γ → β} {t : Session α σ}
    (hjobs : ∀ job ∈ t.jobs, job.told f = (job.told g).map k) : t.told f = (t.told g).map k := by
  rw [told_eq, told_eq, Multiset.map_coe, List.map_flatMap, List.flatMap_congr hjobs]

/-- As long as the background is there, whatever is reported is handed over. -/
theorem told_handedOver {t : Session α σ}
    (hjobs : ∀ job ∈ t.jobs, ∀ r ∈ job.told Act.reported?, r.1.background = .running) :
    t.told Act.handedOver? =
      (t.told Act.reported?).map fun r => (r.1, r.2.1.reportMessage, r.2.2) :=
  told_map fun job hjob => Act.filterMap_handedOver (hjobs job hjob)

/-- The jobs of a run are the calls, in their order, and the tasks that have been queued since: the
reports handed over and the captures launched. -/
theorem exists_started_run (h : Host) (slots : Nat → BacktraceSlot String)
    (calls : List (Nat × Undertaking α σ)) (moves : List Nat) :
    ∃ started : List Task,
      ((ofCalls h slots calls).run moves).jobs.map Job.origin =
        calls.map Prod.snd ++ started.map Undertaking.task ∧
      ((started.filterMap Task.report? : List _) : Multiset _) =
        ((ofCalls h slots calls).run moves).told Act.handedOver? ∧
      ((started.filterMap Task.commandId? : List _) : Multiset _) =
        ((ofCalls h slots calls).run moves).told Act.launchedId? := by
  apply run_induction (P := fun t => ∃ started : List Task,
    t.jobs.map Job.origin = calls.map Prod.snd ++ started.map Undertaking.task ∧
      ((started.filterMap Task.report? : List _) : Multiset _) = t.told Act.handedOver? ∧
      ((started.filterMap Task.commandId? : List _) : Multiset _) = t.told Act.launchedId?)
  · refine ⟨[], ?_, ?_, ?_⟩
    · rw [ofCalls, List.map_map, List.map_nil, List.append_nil]
      rfl
    · rw [told_ofCalls]
      rfl
    · rw [told_ofCalls]
      rfl
  · rintro u index job d rest left acts spawned after ⟨started, horigins, hreports, hids⟩ hs
    refine ⟨started ++ spawned, ?_, ?_, ?_⟩
    · rw [origins_commit hs.getElem?, horigins, List.map_append, List.append_assoc]
    · rw [told_commit _ hs.getElem?, ← hreports, List.filterMap_append, ← Multiset.coe_add,
        hs.turn.reports_eq]
    · rw [told_commit _ hs.getElem?, ← hids, List.filterMap_append, ← Multiset.coe_add,
        hs.turn.commandIds_eq]

/-- Every call has its job. -/
theorem exists_job_of_call (h : Host) (slots : Nat → BacktraceSlot String)
    {calls : List (Nat × Undertaking α σ)} (moves : List Nat) {k : Nat}
    {call : Nat × Undertaking α σ} (hcall : calls[k]? = some call) :
    ∃ job, ((ofCalls h slots calls).run moves).jobs[k]? = some job ∧ job.origin = call.2 := by
  obtain ⟨started, horigins, -, -⟩ := exists_started_run h slots calls moves
  have hlt := (List.getElem?_eq_some_iff.1 hcall).1
  have horigin := congrArg (·[k]?) horigins
  rw [List.getElem?_append_left (by rwa [List.length_map]), List.getElem?_map, List.getElem?_map,
    hcall, Option.map_some, Option.map_eq_some_iff] at horigin
  exact horigin

/-- If each step puts what can be told of it into something that the host holds, then what a run has
put there is what can be told of the jobs, in some order. -/
theorem exists_put_run (view : Host → γ) {put : γ → β → γ} {f : Act α σ → Option β}
    {P : Job α σ → Prop}
    (hview : ∀ (h : Host) tasks slot, view { h with tasks := tasks, slot := slot } = view h)
    (hP : Kept P)
    (hstep : ∀ ended fresh host job d rest left acts spawned after, P job → job.todo = d :: rest →
      Turn ended fresh host d left acts spawned after →
        view after = (acts.filterMap f).foldl put (view host))
    {h : Host} {slots : Nat → BacktraceSlot String} {calls : List (Nat × Undertaking α σ)}
    (hcalls : ∀ call ∈ calls, P (.start call.1 call.2)) (moves : List Nat) :
    ∃ gained : List β,
      view ((ofCalls h slots calls).run moves).host = gained.foldl put (view h) ∧
      (gained : Multiset β) = ((ofCalls h slots calls).run moves).told f := by
  suffices hall : (∀ job ∈ ((ofCalls h slots calls).run moves).jobs, P job) ∧
      ∃ gained : List β,
        view ((ofCalls h slots calls).run moves).host = gained.foldl put (view h) ∧
        (gained : Multiset β) = ((ofCalls h slots calls).run moves).told f from hall.2
  apply run_induction (P := fun t => (∀ job ∈ t.jobs, P job) ∧
    ∃ gained : List β, view t.host = gained.foldl put (view h) ∧ (gained : Multiset β) = t.told f)
  · refine ⟨forall_jobs_run hP hcalls [], [], rfl, ?_⟩
    rw [told_ofCalls]
    rfl
  · rintro u index job d rest left acts spawned after ⟨hjobs, gained, hhost, hgained⟩ hs
    have hjob := hjobs job (List.mem_of_getElem? hs.getElem?)
    have hadded := hstep _ _ _ _ _ _ _ _ _ _ hjob hs.duties hs.turn
    refine ⟨hP.commit hjobs hs, gained ++ acts.filterMap f, ?_, ?_⟩
    · rw [commit, hview, hadded, seen, List.foldl_append, ← hhost]
      exact congrArg (List.foldl put · _) (hview u.host u.host.tasks _)
    · rw [told_commit f hs.getElem?, ← hgained, Multiset.coe_add]

theorem foldl_snoc (l gained : List β) : gained.foldl (fun l x => l ++ [x]) l = l ++ gained := by
  induction gained generalizing l with
  | nil => exact (List.append_nil l).symm
  | cons x gained ih => rw [List.foldl_cons, ih, List.append_assoc, List.singleton_append]

/-- If each step adds to a list of the host what can be told of it, then what the list has gained in
a run is what can be told of the jobs, in some order. -/
theorem exists_gained_run (view : Host → List β) {f : Act α σ → Option β} {P : Job α σ → Prop}
    (hview : ∀ (h : Host) tasks slot, view { h with tasks := tasks, slot := slot } = view h)
    (hP : Kept P)
    (hstep : ∀ ended fresh host job d rest left acts spawned after, P job → job.todo = d :: rest →
      Turn ended fresh host d left acts spawned after →
        view after = view host ++ acts.filterMap f)
    {h : Host} {slots : Nat → BacktraceSlot String} {calls : List (Nat × Undertaking α σ)}
    (hcalls : ∀ call ∈ calls, P (.start call.1 call.2)) (moves : List Nat) :
    ∃ gained, view ((ofCalls h slots calls).run moves).host = view h ++ gained ∧
      (gained : Multiset β) = ((ofCalls h slots calls).run moves).told f := by
  have hput : ∃ gained : List β, view ((ofCalls h slots calls).run moves).host =
      gained.foldl (fun l x => l ++ [x]) (view h) ∧
        (gained : Multiset β) = ((ofCalls h slots calls).run moves).told f := by
    refine exists_put_run view hview hP ?_ hcalls moves
    intro ended fresh host job d rest left acts spawned after hjob htodo hs
    rw [foldl_snoc]
    exact hstep _ _ _ _ _ _ _ _ _ _ hjob htodo hs
  simpa only [foldl_snoc] using hput

theorem kept_true : Kept fun _ : Job α σ => True :=
  fun _ _ _ _ _ _ _ _ _ _ _ _ _ => ⟨trivial, fun _ _ _ => trivial⟩

/-- What a run has handed to the transport is what the jobs sent. -/
theorem exists_sent_run (h : Host) (slots : Nat → BacktraceSlot String)
    (calls : List (Nat × Undertaking α σ)) (moves : List Nat) :
    ∃ sent, ((ofCalls h slots calls).run moves).host.posts = h.posts ++ sent ∧
      (sent : Multiset Post) = ((ofCalls h slots calls).run moves).told Act.sent? :=
  exists_gained_run Host.posts (fun _ _ _ => rfl) kept_true
    (fun _ _ _ _ _ _ _ _ _ _ _ _ hs => hs.posts_eq) (fun _ _ => trivial) moves

/-- The ids that a run has registered are those that the jobs launched. -/
theorem exists_launched_run (h : Host) (slots : Nat → BacktraceSlot String)
    (calls : List (Nat × Undertaking α σ)) (moves : List Nat) :
    ∃ launched, ((ofCalls h slots calls).run moves).host.commands.ids =
        h.commands.ids ++ launched ∧
      (launched : Multiset Int64) = ((ofCalls h slots calls).run moves).told Act.launchedId? :=
  exists_gained_run (fun h => h.commands.ids) (fun _ _ _ => rfl) kept_true
    (fun _ _ _ _ _ _ _ _ _ _ _ _ hs => hs.ids_eq) (fun _ _ => trivial) moves

end Session

end Telemetry
