import Telemetry.Proofs.Panic.OneReportEach

/-!
Who waits for a report really does.

A reporter raises what it has caught, leaves its report to a task, waits if it can, and then comes
to its end. `Stage` says how far it has come, with the number of the one task that it has made of
its report (`TaskOf`), and every move keeps it (`Stage.snoc`). A reporter that waits passes the wait
only once its task has ended, and a task that has ended has made its attempt
(`attempted_of_isDone`).
-/
namespace Telemetry

variable {α σ : Type}

/-- How patient a caller of a blocking report is, by where it calls from. -/
inductive Caller.Affords : Caller → Patience → Prop where
  | plainThread : Affords .plainThread .waits
  | multiThreadRuntime : Affords .multiThreadRuntime .waits
  | currentThreadRuntime : Affords .currentThreadRuntime .cannotWait

theorem Caller.Affords.patience_eq {caller : Caller} {patience : Patience}
    (hcaller : caller.Affords patience) : caller.patience = patience := by
  cases hcaller <;> rfl

/-- The calls that report a panic and wait for the report, or would: what they report, how patient
they are and what they come to. A caught panic is raised, then reported as by a blocking report, and
then goes on. -/
inductive Undertaking.Waits :
    Undertaking α σ → Client × Payload × Int64 → Patience → Upshot α σ → Prop where
  | reportAndWait (c : Client) (payload : Payload) (span : Int64) :
    Waits (.reportAndWait c payload span) (c, payload, span) .waits .finished
  | reportBlocking (c : Client) (caller : Caller) (patience : Patience)
    (hcaller : caller.Affords patience) (payload : Payload) (span : Int64) :
    Waits (.reportBlocking c caller payload span) (c, payload, span) patience .finished
  | persistRepanic (c : Client) (caller : Caller) (patience : Patience)
    (hcaller : caller.Affords patience) (p : Panic) :
    Waits (.persistRepanic c caller (.panics p)) (c, p.payload, 0) patience
      (.resumed (.error p.payload))

theorem Undertaking.Waits.exists_duties {u : Undertaking α σ} {r : Client × Payload × Int64}
    {patience : Patience} {upshot : Upshot α σ} (hu : u.Waits r patience upshot) :
    ∃ raised : List Panic, u.duties =
      raised.map .raise ++ [.report r.1 r.2.1 r.2.2 patience, .conclude upshot] := by
  cases hu with
  | reportAndWait c payload span => exact ⟨[], rfl⟩
  | reportBlocking c caller patience hcaller payload span =>
    rw [← hcaller.patience_eq]
    exact ⟨[], rfl⟩
  | persistRepanic c caller patience hcaller p =>
    rw [← hcaller.patience_eq]
    exact ⟨[p], rfl⟩

namespace Session

/-- A report is left to a task of its own, the one with the next number. -/
theorem move_report {t : Session α σ} {k : Nat} {job : Job α σ} {c : Client} {payload : Payload}
    {span : Int64} {patience : Patience} {rest : List (Duty α σ)}
    (hrunning : c.background = .running) (hjob : t.jobs[k]? = some job)
    (htodo : job.todo = .report c payload span patience :: rest) :
    (t.move k).jobs[k]? = some (job.goOn (patience.duties (some t.jobs.length) ++ rest)
      [.reported c payload span]) ∧
    ∃ trace, (t.move k).jobs[t.jobs.length]? =
      some (.start job.thread (.task (.report c payload.reportMessage trace span))) := by
  obtain ⟨trace, log, hhost⟩ := c.report_host payload span (t.seen job)
  have hticket : c.ticket t.jobs.length = some t.jobs.length := by
    simp only [Client.ticket, hrunning]
  have htasks : c.reportTasks payload.reportMessage trace span =
      [.report c payload.reportMessage trace span] := by
    simp only [Client.reportTasks, hrunning]
  constructor
  · rw [getElem?_move hjob htodo]
    simp only [Duty.step, hticket]
  · refine ⟨trace, ?_⟩
    have hdrop : (c.report payload span (t.seen job)).tasks.drop t.host.tasks.length =
        [.report c payload.reportMessage trace span] := by
      rw [hhost, htasks]
      exact List.drop_left
    rw [jobs_move hjob htodo]
    simp only [Duty.step, hdrop]
    rw [List.getElem?_append_right (by rw [List.length_set]), List.length_set, Nat.sub_self]
    rfl

variable (first : Session α σ) (k : Nat) (r : Client × Payload × Int64)

/-- Whether a job is about to leave a report to the background. -/
def Asks (t : Session α σ) : Prop :=
  ∃ job rest patience, t.jobs[k]? = some job ∧
    job.todo = .report r.1 r.2.1 r.2.2 patience :: rest

/-- A job has made a task with a given number of its report. -/
def HandsOver (moves : List Nat) (n : Nat) : Prop :=
  ∃ before later, moves = before ++ k :: later ∧ (first.run before).Asks k r ∧
    (first.run before).jobs.length = n

/-- A job has made one task of its report, and which. -/
def TaskOf (moves : List Nat) (n : Nat) : Prop :=
  ∀ m, HandsOver first k r moves m ↔ m = n

variable {first k r} {moves : List Nat} {n : Nat}

/-- A report is left to the background in the last move or was before. -/
theorem handsOver_snoc_iff {index : Nat} :
    HandsOver first k r (moves ++ [index]) n ↔ HandsOver first k r moves n ∨
      index = k ∧ (first.run moves).Asks k r ∧ (first.run moves).jobs.length = n := by
  constructor
  · rintro ⟨before, later, hmoves, hasks, hlength⟩
    obtain rfl | ⟨later, last, rfl⟩ := List.eq_nil_or_concat' later
    · obtain ⟨rfl, hindex⟩ := List.append_inj' hmoves rfl
      cases hindex
      exact .inr ⟨rfl, hasks, hlength⟩
    · rw [← List.cons_append, ← List.append_assoc] at hmoves
      obtain ⟨rfl, -⟩ := List.append_inj' hmoves rfl
      exact .inl ⟨before, later, rfl, hasks, hlength⟩
  · rintro (⟨before, later, rfl, hasks, hlength⟩ | ⟨rfl, hasks, hlength⟩)
    · exact ⟨before, later ++ [index], by simp, hasks, hlength⟩
    · exact ⟨moves, [], rfl, hasks, hlength⟩

theorem not_handsOver_nil : ¬ HandsOver first k r [] n := by
  rintro ⟨before, later, hmoves, -⟩
  simp at hmoves

/-- The task is there and has the report to send. -/
theorem exists_job_of_handsOver (hrunning : r.1.background = .running)
    (hover : HandsOver first k r moves n) :
    ∃ job trace, (first.run moves).jobs[n]? = some job ∧
      job.origin = .task (.report r.1 r.2.1.reportMessage trace r.2.2) := by
  obtain ⟨before, later, rfl, ⟨own, rest, patience, hown, htodo⟩, rfl⟩ := hover
  obtain ⟨-, trace, hfresh⟩ := move_report hrunning hown htodo
  obtain ⟨job, hjob, horigin⟩ := exists_job_run hfresh later
  refine ⟨job, trace, ?_, horigin⟩
  rw [run_append]
  exact hjob

theorem not_asks {t : Session α σ} {job : Job α σ} (hjob : t.jobs[k]? = some job)
    (hnone : ∀ patience rest, job.todo ≠ .report r.1 r.2.1 r.2.2 patience :: rest) :
    ¬ t.Asks k r := by
  rintro ⟨own, rest, patience, hown, hreport⟩
  cases hjob.symm.trans hown
  exact hnone patience rest hreport

theorem handsOver_snoc_of_not {index : Nat}
    (hnot : ¬ (index = k ∧ (first.run moves).Asks k r)) :
    HandsOver first k r (moves ++ [index]) n ↔ HandsOver first k r moves n := by
  rw [handsOver_snoc_iff]
  constructor
  · rintro (hover | ⟨hindex, hasks, -⟩)
    · exact hover
    · exact absurd ⟨hindex, hasks⟩ hnot
  · exact .inl

theorem TaskOf.snoc_of_not {index : Nat} (htask : TaskOf first k r moves n)
    (hnot : ¬ (index = k ∧ (first.run moves).Asks k r)) :
    TaskOf first k r (moves ++ [index]) n :=
  fun m => (handsOver_snoc_of_not hnot).trans (htask m)

/-- A move in which nothing is asked makes no further task. -/
theorem TaskOf.snoc_self (htask : TaskOf first k r moves n) {job : Job α σ}
    (hjob : (first.run moves).jobs[k]? = some job)
    (hnone : ∀ patience rest, job.todo ≠ .report r.1 r.2.1 r.2.2 patience :: rest) :
    TaskOf first k r (moves ++ [k]) n :=
  htask.snoc_of_not fun h => not_asks hjob hnone h.2

/-! ### How far a reporter has come -/

variable (first k r) (patience : Patience) (upshot : Upshot α σ)

/-- A reporter is done but for its end. If it waits, its task has ended. -/
structure Leaves (moves : List Nat) (n : Nat) : Prop where
  task : TaskOf first k r moves n
  next : ∃ job, (first.run moves).jobs[k]? = some job ∧ job.todo = [.conclude upshot] ∧
    job.past = [.reported r.1 r.2.1 r.2.2]
  ended : patience = .waits → (first.run moves).isDone n = true

/-- How far a reporter has come after some moves. -/
inductive Stage (moves : List Nat) : Prop where
  | asks (raised : List Panic) (job : Job α σ) (hjob : (first.run moves).jobs[k]? = some job)
    (htodo : job.todo =
      raised.map .raise ++ [.report r.1 r.2.1 r.2.2 patience, .conclude upshot])
    (hpast : job.past = []) (hnone : ∀ n, ¬ HandsOver first k r moves n)
  | lingers (n : Nat) (d : Duty α σ) (hd : patience.duties (some n) = [d]) (job : Job α σ)
    (hjob : (first.run moves).jobs[k]? = some job) (htodo : job.todo = [d, .conclude upshot])
    (hpast : job.past = [.reported r.1 r.2.1 r.2.2]) (htask : TaskOf first k r moves n)
  | leaves (n : Nat) (hleaves : Leaves first k r patience upshot moves n)
  | left (before later : List Nat) (hmoves : moves = before ++ k :: later) (n : Nat)
    (hleaves : Leaves first k r patience upshot before n) (job : Job α σ)
    (hjob : (first.run moves).jobs[k]? = some job) (htodo : job.todo = [])
    (hpast : job.past = [.reported r.1 r.2.1 r.2.2, .concluded upshot])
    (htask : TaskOf first k r moves n)

variable {first k r patience upshot}

/-- The moves of others leave a reporter where it is. -/
theorem Stage.snoc_of_ne (hstage : Stage first k r patience upshot moves) {index : Nat}
    (hindex : k ≠ index) : Stage first k r patience upshot (moves ++ [index]) := by
  have hnot : ¬ (index = k ∧ (first.run moves).Asks k r) := fun h => hindex h.1.symm
  have hstays : ∀ job : Job α σ, (first.run moves).jobs[k]? = some job →
      (first.run (moves ++ [index])).jobs[k]? = some job := by
    intro job hjob
    rw [run_snoc]
    exact getElem?_move_of_ne hindex hjob
  cases hstage with
  | asks raised job hjob htodo hpast hnone =>
    exact .asks raised job (hstays job hjob) htodo hpast fun n hover =>
      hnone n ((handsOver_snoc_of_not hnot).1 hover)
  | lingers n d hd job hjob htodo hpast htask =>
    exact .lingers n d hd job (hstays job hjob) htodo hpast (htask.snoc_of_not hnot)
  | leaves n hleaves =>
    obtain ⟨htask, ⟨job, hjob, hnext⟩, hended⟩ := hleaves
    refine .leaves n ⟨htask.snoc_of_not hnot, ⟨job, hstays job hjob, hnext⟩, fun hwaits => ?_⟩
    rw [run_snoc]
    exact isDone_move (hended hwaits) index
  | left before later hmoves n hleaves job hjob htodo hpast htask =>
    exact .left before (later ++ [index]) (by simp [hmoves]) n hleaves job (hstays job hjob) htodo
      hpast (htask.snoc_of_not hnot)

/-- Once its report is left to the background, a reporter lingers unless it goes on at once. -/
theorem Stage.of_asking (hrunning : r.1.background = .running) {job : Job α σ}
    (hjob : (first.run moves).jobs[k]? = some job)
    (htodo : job.todo = [.report r.1 r.2.1 r.2.2 patience, .conclude upshot])
    (hpast : job.past = []) (hnone : ∀ n, ¬ HandsOver first k r moves n) :
    Stage first k r patience upshot (moves ++ [k]) := by
  obtain ⟨hmoved, -⟩ := move_report hrunning hjob htodo
  rw [← run_snoc] at hmoved
  have hreported : (job.past ++ [.reported r.1 r.2.1 r.2.2] : List (Act α σ)) =
      [.reported r.1 r.2.1 r.2.2] := by rw [hpast, List.nil_append]
  have htask : TaskOf first k r (moves ++ [k]) (first.run moves).jobs.length := by
    intro m
    rw [handsOver_snoc_iff]
    constructor
    · rintro (hover | ⟨-, -, hlength⟩)
      · exact absurd hover (hnone m)
      · exact hlength.symm
    · rintro rfl
      exact .inr ⟨rfl, ⟨job, _, patience, hjob, htodo⟩, rfl⟩
  cases patience with
  | goesOn => exact .leaves _ ⟨htask, ⟨_, hmoved, rfl, hreported⟩, fun hwaits => by cases hwaits⟩
  | waits => exact .lingers _ _ rfl _ hmoved rfl hreported htask
  | cannotWait => exact .lingers _ _ rfl _ hmoved rfl hreported htask

/-- A reporter that waits leaves once its task has ended. -/
theorem Stage.of_lingering {d : Duty α σ} (hd : patience.duties (some n) = [d]) {job : Job α σ}
    (hjob : (first.run moves).jobs[k]? = some job) (htodo : job.todo = [d, .conclude upshot])
    (hpast : job.past = [.reported r.1 r.2.1 r.2.2]) (htask : TaskOf first k r moves n) :
    Stage first k r patience upshot (moves ++ [k]) := by
  have hmoved := getElem?_move hjob htodo
  rw [← run_snoc] at hmoved
  have hsame : (job.past ++ [] : List (Act α σ)) = [.reported r.1 r.2.1 r.2.2] := by
    rw [hpast, List.append_nil]
  cases patience with
  | goesOn => cases hd
  | cannotWait =>
    cases hd
    have hstill : TaskOf first k r (moves ++ [k]) n :=
      htask.snoc_self hjob (by rw [htodo]; rintro _ _ ⟨⟩)
    exact .leaves n ⟨hstill, ⟨_, hmoved, rfl, hsame⟩, fun hwaits => by cases hwaits⟩
  | waits =>
    cases hd
    have hstill : TaskOf first k r (moves ++ [k]) n :=
      htask.snoc_self hjob (by rw [htodo]; rintro _ _ ⟨⟩)
    cases hdone : (first.run moves).isDone n with
    | false =>
      simp only [Duty.step, hdone, Bool.false_eq_true, if_false] at hmoved
      exact .lingers n _ rfl _ hmoved rfl hsame hstill
    | true =>
      simp only [Duty.step, hdone, if_true] at hmoved
      refine .leaves n ⟨hstill, ⟨_, hmoved, rfl, hsame⟩, fun _ => ?_⟩
      rw [run_snoc]
      exact isDone_move hdone k

theorem Stage.of_leaving (hleaves : Leaves first k r patience upshot moves n) :
    Stage first k r patience upshot (moves ++ [k]) := by
  obtain ⟨job, hjob, htodo, hpast⟩ := hleaves.next
  have hmoved := getElem?_move hjob htodo
  rw [← run_snoc] at hmoved
  have hstill : TaskOf first k r (moves ++ [k]) n :=
    hleaves.task.snoc_self hjob (by rw [htodo]; rintro _ _ ⟨⟩)
  have hconcluded : (job.past ++ [.concluded upshot] : List (Act α σ)) =
      [.reported r.1 r.2.1 r.2.2, .concluded upshot] := by rw [hpast, List.singleton_append]
  exact .left moves [] rfl n hleaves _ hmoved rfl hconcluded hstill

/-- A reporter that has something to raise is still to ask. -/
theorem Stage.of_raising (raised : List Panic) (p : Panic) {job : Job α σ}
    (hjob : (first.run moves).jobs[k]? = some job)
    (htodo : job.todo = (p :: raised).map .raise ++
      [.report r.1 r.2.1 r.2.2 patience, .conclude upshot])
    (hpast : job.past = []) (hnone : ∀ n, ¬ HandsOver first k r moves n) :
    Stage first k r patience upshot (moves ++ [k]) := by
  have hmoved := getElem?_move hjob htodo
  rw [← run_snoc] at hmoved
  have hnot : ¬ (first.run moves).Asks k r := not_asks hjob (by rw [htodo]; rintro _ _ ⟨⟩)
  have hsame : (job.past ++ [] : List (Act α σ)) = [] := by rw [hpast, List.append_nil]
  exact .asks raised _ hmoved rfl hsame fun n hover =>
    hnone n ((handsOver_snoc_of_not fun h => hnot h.2).1 hover)

theorem Stage.snoc (hrunning : r.1.background = .running)
    (hstage : Stage first k r patience upshot moves) (index : Nat) :
    Stage first k r patience upshot (moves ++ [index]) := by
  by_cases hindex : k = index
  case neg => exact hstage.snoc_of_ne hindex
  subst hindex
  cases hstage with
  | asks raised job hjob htodo hpast hnone =>
    cases raised with
    | nil => exact .of_asking hrunning hjob htodo hpast hnone
    | cons p raised => exact .of_raising raised p hjob htodo hpast hnone
  | lingers n d hd job hjob htodo hpast htask => exact .of_lingering hd hjob htodo hpast htask
  | leaves n hleaves => exact .of_leaving hleaves
  | left before later hmoves n hleaves job hjob htodo hpast htask =>
    have hrests : first.run (moves ++ [k]) = first.run moves := by
      rw [run_snoc]
      exact move_of_isDone (isDone_iff.2 ⟨job, hjob, htodo⟩)
    have hstill : TaskOf first k r (moves ++ [k]) n :=
      htask.snoc_self hjob (by rw [htodo]; rintro _ _ ⟨⟩)
    refine .left before (later ++ [k]) (by simp [hmoves]) n hleaves job ?_ htodo hpast hstill
    rw [hrests]
    exact hjob

/-- In every run a reporter is at one of its stages. -/
theorem stage_run {h : Host} {slots : Nat → BacktraceSlot String}
    {calls : List (Nat × Undertaking α σ)} {call : Nat × Undertaking α σ}
    (hcall : calls[k]? = some call) (hwaits : call.2.Waits r patience upshot)
    (hrunning : r.1.background = .running) (moves : List Nat) :
    Stage (ofCalls h slots calls) k r patience upshot moves := by
  induction moves using List.reverseRecOn with
  | nil =>
    obtain ⟨raised, hduties⟩ := hwaits.exists_duties
    have hjob : (ofCalls h slots calls).jobs[k]? = some (.start call.1 call.2) := by
      rw [ofCalls, List.getElem?_map, hcall]
      rfl
    exact .asks raised _ hjob hduties rfl fun _ => not_handsOver_nil
  | append_singleton moves index ih => exact ih.snoc hrunning index

/-- A reporter that has come to its end has left. -/
theorem Stage.of_concluded (hstage : Stage first k r patience upshot moves) {job : Job α σ}
    (hjob : (first.run moves).jobs[k]? = some job) (hconcluded : job.told Act.concluded? ≠ []) :
    job.past = [.reported r.1 r.2.1 r.2.2, .concluded upshot] ∧
      ∃ before later n, moves = before ++ k :: later ∧
        Leaves first k r patience upshot before n := by
  have hpast : job.past ≠ [] ∧ job.past ≠ [.reported r.1 r.2.1 r.2.2] := by
    constructor <;> intro hpast <;> rw [Job.told, hpast] at hconcluded <;> exact hconcluded rfl
  cases hstage with
  | asks raised own hown htodo hnothing hnone =>
    cases hjob.symm.trans hown
    exact absurd hnothing hpast.1
  | lingers n d hd own hown htodo hreported htask =>
    cases hjob.symm.trans hown
    exact absurd hreported hpast.2
  | leaves n hleaves =>
    obtain ⟨own, hown, -, hreported⟩ := hleaves.next
    cases hjob.symm.trans hown
    exact absurd hreported hpast.2
  | left before later hmoves n hleaves own hown htodo hall htask =>
    cases hjob.symm.trans hown
    exact ⟨hall, before, later, n, hmoves, hleaves⟩

/-- A reporter that has nothing left to do has come to its end. -/
theorem Stage.of_todo_nil (hstage : Stage first k r patience upshot moves) {job : Job α σ}
    (hjob : (first.run moves).jobs[k]? = some job) (htodo : job.todo = []) :
    job.past = [.reported r.1 r.2.1 r.2.2, .concluded upshot] ∧
      ∃ n, TaskOf first k r moves n := by
  cases hstage with
  | asks raised own hown hasks hpast hnone =>
    cases hjob.symm.trans hown
    rw [htodo] at hasks
    exact absurd hasks.symm (List.append_ne_nil_of_right_ne_nil _ (List.cons_ne_nil _ _))
  | lingers n d hd own hown hlingers hpast htask =>
    cases hjob.symm.trans hown
    cases htodo.symm.trans hlingers
  | leaves n hleaves =>
    obtain ⟨own, hown, hleft, hpast⟩ := hleaves.next
    cases hjob.symm.trans hown
    cases htodo.symm.trans hleft
  | left before later hmoves n hleaves own hown hnil hpast htask =>
    cases hjob.symm.trans hown
    exact ⟨hpast, n, htask⟩

/-! ### Attempts -/

/-- The attempt to send a report has been made and is over. Its task has handed the report to the
transport once, if its client can post, and has not handed over anything otherwise. -/
def Attempted (t : Session α σ) (n : Nat) (r : Client × Payload × Int64) : Prop :=
  ∃ job trace, t.jobs[n]? = some job ∧
    job.origin = .task (.report r.1 r.2.1.reportMessage trace r.2.2) ∧ job.todo = [] ∧
    let cargo : Cargo := .report (PanicReport.make r.2.1.reportMessage trace r.2.2)
    ((∃ headers, r.1.CanPost headers ∧ job.told Act.sent? = [cargo.post r.1 headers] ∧
        cargo.post r.1 headers ∈ t.host.posts) ∨
      (∀ headers, ¬ r.1.CanPost headers) ∧ job.told Act.sent? = [])

theorem attempted_of_isDone {h : Host} {slots : Nat → BacktraceSlot String}
    {calls : List (Nat × Undertaking α σ)} (hrunning : r.1.background = .running)
    (hover : HandsOver (ofCalls h slots calls) k r moves n)
    (hdone : ((ofCalls h slots calls).run moves).isDone n = true) :
    Attempted ((ofCalls h slots calls).run moves) n r := by
  obtain ⟨job, hjob, htodo⟩ := isDone_iff.1 hdone
  obtain ⟨same, trace, hsame, horigin⟩ := exists_job_of_handsOver hrunning hover
  cases hjob.symm.trans hsame
  have hmem := List.mem_of_getElem? hjob
  have hpast := prospect_past hmem htodo
  rw [horigin] at hpast
  obtain ⟨sent, htold, hsent⟩ := hpast.of_task
  have hposts : job.told Act.sent? = sent := by
    rw [Job.told, htold]
    simp [Task.acts, Task.activity, Activity.captures, Act.sent?, Act.deed?, Deed.post?,
      Function.comp_def]
  refine ⟨job, trace, hjob, horigin, htodo, ?_⟩
  obtain ⟨headers, hcan, rfl⟩ | ⟨hnone, rfl⟩ := hsent _ _ _ _ rfl
  · refine .inl ⟨headers, hcan, hposts, ?_⟩
    obtain ⟨gained, hgained, hall⟩ := exists_sent_run h slots calls moves
    rw [hgained]
    refine List.mem_append_right _ (Multiset.mem_coe.1 ?_)
    rw [hall]
    exact mem_told.2 ⟨job, hmem, by rw [hposts]; exact List.mem_singleton.2 rfl⟩
  · exact .inr ⟨hnone, hposts⟩

/-- Nobody else needs a turn for a job to raise what it has to raise. -/
theorem exists_raised (raised : List Panic) {t : Session α σ} {job : Job α σ}
    {rest : List (Duty α σ)} (hjob : t.jobs[k]? = some job)
    (htodo : job.todo = raised.map .raise ++ rest) :
    ∃ moves own, (t.run moves).jobs[k]? = some own ∧ own.todo = rest := by
  induction raised generalizing t job with
  | nil => exact ⟨[], job, hjob, htodo⟩
  | cons p raised ih =>
    obtain ⟨moves, own, hown, hrest⟩ := ih (getElem?_move hjob htodo) rfl
    exact ⟨k :: moves, own, hown, hrest⟩

/-- A reporter that cannot wait may be gone before its task has done anything. -/
theorem exists_unattended {t : Session α σ} (hrunning : r.1.background = .running) {job : Job α σ}
    (hjob : t.jobs[k]? = some job)
    (htodo : job.todo = [.report r.1 r.2.1 r.2.2 .cannotWait, .conclude upshot]) :
    ∃ own, (t.run [k, k, k]).jobs[k]? = some own ∧ own.todo = [] ∧
      (t.run [k, k, k]).isDone t.jobs.length = false := by
  have hfresh : t.jobs.length ≠ k := by
    have hlt := (List.getElem?_eq_some_iff.1 hjob).1
    omega
  obtain ⟨hasked, trace, hqueued⟩ := move_report hrunning hjob htodo
  have hlogged := getElem?_move hasked rfl
  have hgone := getElem?_move hlogged rfl
  have hstill := getElem?_move_of_ne hfresh (getElem?_move_of_ne hfresh hqueued)
  refine ⟨_, hgone, rfl, ?_⟩
  change (((t.move k).move k).move k).isDone t.jobs.length = false
  rw [isDone, hstill]
  rfl

/-- Waiting reports wait. Whatever else goes on and however the moves interleave, a call that
reports a panic and that has come to its end has come to the one that it should, in a last step
before which nothing else was left for it to do; if it waits, the attempt to send its report had
been made and was over before that step. If turns come again and again, the call and its task end.
By then the call has made one report of the panic and one task of the report, and the attempt has
been made, once, also for a caller that cannot wait. That caller may be gone before. -/
theorem waits_for_attempt (h : Host) (slots : Nat → BacktraceSlot String)
    (calls : List (Nat × Undertaking α σ)) {call : Nat × Undertaking α σ}
    (hcall : calls[k]? = some call)
    (hwaits : call.2.Waits r patience upshot) (hrunning : r.1.background = .running) :
    let first := ofCalls h slots calls
    (∀ moves job, (first.run moves).jobs[k]? = some job → job.told Act.concluded? ≠ [] →
      job.told Act.concluded? = [upshot] ∧
      ∃ before later n, moves = before ++ k :: later ∧
        Leaves first k r patience upshot before n ∧
        (patience = .waits → Attempted (first.run before) n r)) ∧
    (∀ turns, Fair turns → ∃ count, (first.after turns count).isOver = true) ∧
    (∀ moves, (first.run moves).isOver = true →
      ∃ job n, (first.run moves).jobs[k]? = some job ∧ job.told Act.concluded? = [upshot] ∧
        job.told Act.reported? = [r] ∧ TaskOf first k r moves n ∧ Attempted (first.run moves) n r) ∧
    (patience = .cannotWait → ∃ moves job n, (first.run moves).jobs[k]? = some job ∧
      job.told Act.concluded? = [upshot] ∧ TaskOf first k r moves n ∧
      (first.run moves).isDone n = false) := by
  intro first
  have hstage : ∀ moves, Stage first k r patience upshot moves := stage_run hcall hwaits hrunning
  refine ⟨?_, fun turns hfair => ends_of_fair h slots calls hfair, ?_, ?_⟩
  · intro moves job hjob hconcluded
    obtain ⟨hpast, before, later, n, hmoves, hleaves⟩ := (hstage moves).of_concluded hjob hconcluded
    refine ⟨by rw [Job.told, hpast]; rfl, before, later, n, hmoves, hleaves, fun hwaits => ?_⟩
    exact attempted_of_isDone hrunning ((hleaves.task n).2 rfl) (hleaves.ended hwaits)
  · intro moves hover
    obtain ⟨job, hjob, -⟩ := exists_job_of_call h slots moves hcall
    have hdone : ∀ other ∈ (first.run moves).jobs, other.todo = [] :=
      fun other hother => List.isEmpty_iff.1 (List.all_eq_true.1 hover other hother)
    obtain ⟨hpast, n, htask⟩ :=
      (hstage moves).of_todo_nil hjob (hdone job (List.mem_of_getElem? hjob))
    have hhanded : HandsOver first k r moves n := (htask n).2 rfl
    obtain ⟨own, -, hown, -⟩ := exists_job_of_handsOver hrunning hhanded
    refine ⟨job, n, hjob, by rw [Job.told, hpast]; rfl, by rw [Job.told, hpast]; rfl, htask, ?_⟩
    exact attempted_of_isDone hrunning hhanded
      (isDone_iff.2 ⟨own, hown, hdone own (List.mem_of_getElem? hown)⟩)
  · rintro rfl
    obtain ⟨raised, hduties⟩ := hwaits.exists_duties
    have hstart : first.jobs[k]? = some (.start call.1 call.2) := by
      rw [show first.jobs = calls.map fun call => .start call.1 call.2 from rfl,
        List.getElem?_map, hcall]
      rfl
    obtain ⟨before, asking, hasking, hasks⟩ := exists_raised raised hstart hduties
    obtain ⟨job, hjob, htodo, hundone⟩ := exists_unattended hrunning hasking hasks
    rw [← run_append] at hjob hundone
    obtain ⟨hpast, n, htask⟩ := (hstage _).of_todo_nil hjob htodo
    have hnumber : (first.run before).jobs.length = n :=
      (htask _).1 ⟨before, [k, k], rfl, ⟨asking, _, _, hasking, hasks⟩, rfl⟩
    rw [hnumber] at hundone
    exact ⟨_, job, n, hjob, by rw [Job.told, hpast]; rfl, htask, hundone⟩

/-- A panic goes on where its report can be waited for, with the collector out of reach. By the last
step of its caller the attempt is over. A caller that must not wait may be gone by then. -/
theorem waits_for_attempt_unreached :
    let caught : Panic := ⟨.owned "caught", "<trace>"⟩
    let calls : List (Nat × Undertaking Unit Unit) :=
      [(0, .persistRepanic .unreached .multiThreadRuntime (.panics caught)),
        (1, .reportBlocking .unreached .currentThreadRuntime (.literal "asked") 7)]
    let first := ofCalls (.fresh "") (fun _ => none) calls
    let moves := [0, 0, 2, 2, 0, 2, 0, 0, 1, 1, 1, 3, 3, 3]
    (∃ job before later n, (first.run moves).jobs[0]? = some job ∧
      job.told Act.concluded? = [.resumed (.error caught.payload)] ∧
      moves = before ++ 0 :: later ∧
      Attempted (first.run before) n (.unreached, caught.payload, 0)) ∧
    (∃ job n, (first.run moves).jobs[1]? = some job ∧ job.told Act.concluded? = [.finished] ∧
      Attempted (first.run moves) n (.unreached, .literal "asked", 7)) ∧
    ∃ moves job n, (first.run moves).jobs[1]? = some job ∧
      job.told Act.concluded? = [.finished] ∧ (first.run moves).isDone n = false := by
  intro caught calls first moves
  have hover : (first.run moves).isOver = true := by decide +kernel
  obtain ⟨hlast, -, hends, -⟩ := waits_for_attempt (.fresh "") (fun _ => none) calls (k := 0) rfl
    (.persistRepanic .unreached .multiThreadRuntime .waits .multiThreadRuntime caught) rfl
  obtain ⟨-, -, hasked, hgone⟩ := waits_for_attempt (.fresh "") (fun _ => none) calls (k := 1) rfl
    (.reportBlocking .unreached .currentThreadRuntime .cannotWait .currentThreadRuntime
      (.literal "asked") 7) rfl
  refine ⟨?_, ?_, ?_⟩
  · obtain ⟨job, -, hjob, hconcluded, -⟩ := hends moves hover
    have hsome : job.told Act.concluded? ≠ [] := by
      rw [hconcluded]
      exact List.cons_ne_nil _ _
    obtain ⟨-, before, later, n, hmoves, -, hattempted⟩ := hlast moves job hjob hsome
    exact ⟨job, before, later, n, hjob, hconcluded, hmoves, hattempted rfl⟩
  · obtain ⟨job, n, hjob, hconcluded, -, -, hattempted⟩ := hasked moves hover
    exact ⟨job, n, hjob, hconcluded, hattempted⟩
  · obtain ⟨others, job, n, hjob, hconcluded, -, hundone⟩ := hgone rfl
    exact ⟨others, job, n, hjob, hconcluded, hundone⟩

end Session

end Telemetry
