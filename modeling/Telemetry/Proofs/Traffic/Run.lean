import Mathlib.Algebra.GroupWithZero.Nat
import Mathlib.Data.List.Basic
import Telemetry.Proofs.Traffic.Effect

/-!
Activities that take turns.

Traffic is a host with everything that is in progress at it. A move lets one activity do its next
step or starts one of the queued background tasks, so the lists of moves are all the ways in which
calls and tasks can interleave. The journal says who has done what, in order. Main statements:
what every step keeps holds after every run (`run_induction`), also what each activity keeps of
itself alone (`run_local`), and weights of activities add up over a step (`total_advance`).
-/
namespace Telemetry

/-- A host, what is in progress at it, and what has been done so far by which activity. -/
structure Traffic where
  host : Host
  activities : List Activity
  journal : List (Nat × Deed)

/-- Who goes on: an activity, or the background, which starts one of its tasks. -/
inductive Move where
  | advance (index : Nat)
  | start (index : Nat)

namespace Traffic

/-- Calls that have been made and have not done anything yet. -/
def ofCalls (h : Host) (calls : List Call) : Traffic :=
  ⟨h, calls.map Call.activity, []⟩

/-- Lets an activity do its next step. -/
def advance (index : Nat) (a : Activity) (t : Traffic) : Traffic where
  host := (a.step t.host).2.2
  activities := t.activities.set index (a.step t.host).1
  journal := t.journal ++ (a.step t.host).2.1.map fun deed => (index, deed)

/-- Starts a background task. -/
def start (index : Nat) (task : Task) (t : Traffic) : Traffic :=
  { t with
    host := { t.host with tasks := t.host.tasks.eraseIdx index }
    activities := t.activities ++ [task.activity] }

/-- Makes a move; nothing happens if there is nobody to make it. -/
def step (t : Traffic) : Move → Traffic
  | .advance index =>
    match t.activities[index]? with
    | some a => t.advance index a
    | none => t
  | .start index =>
    match t.host.tasks[index]? with
    | some task => t.start index task
    | none => t

def run (t : Traffic) (moves : List Move) : Traffic :=
  moves.foldl step t

/-- Whether nothing is left to do. -/
def isOver (t : Traffic) : Bool :=
  t.activities.all Activity.isOver && t.host.tasks.isEmpty

/-- What one activity has done. -/
def past (t : Traffic) (index : Nat) : List Deed :=
  (t.journal.filter fun entry => entry.1 = index).map Prod.snd

/-- The deeds of one sort, in order. -/
def deeds (f : Deed → Option α) (t : Traffic) : List α :=
  t.journal.filterMap fun entry => f entry.2

def launches (t : Traffic) : List Task :=
  t.deeds Deed.task?

def launchedIds (t : Traffic) : List Int64 :=
  t.launches.filterMap Task.commandId?

def sent (t : Traffic) : List Post :=
  t.deeds Deed.post?

/-- The sum of a weight over the activities. -/
def total (weight : Activity → Nat) (t : Traffic) : Nat :=
  (t.activities.map weight).sum

/-- What holds at first and after each move holds after each run. -/
theorem run_induction {P : Traffic → Prop} {t : Traffic} (hstart : P t)
    (hadvance : ∀ u i a, P u → u.activities[i]? = some a → P (u.advance i a))
    (htask : ∀ u i task, P u → u.host.tasks[i]? = some task → P (u.start i task))
    (moves : List Move) : P (t.run moves) := by
  induction moves generalizing t with
  | nil => exact hstart
  | cons move rest ih =>
    apply ih
    cases move with
    | advance i =>
      simp only [step]
      cases ha : t.activities[i]? with
      | none => exact hstart
      | some a => exact hadvance t i a hstart ha
    | start i =>
      simp only [step]
      cases htasks : t.host.tasks[i]? with
      | none => exact hstart
      | some task => exact htask t i task hstart htasks

/-! ### Who is there -/

theorem length_advance (index : Nat) (a : Activity) (t : Traffic) :
    (t.advance index a).activities.length = t.activities.length :=
  List.length_set

theorem length_start (index : Nat) (task : Task) (t : Traffic) :
    (t.start index task).activities.length = t.activities.length + 1 := by
  rw [start, List.length_append, List.length_singleton]

theorem getElem?_advance_self {t : Traffic} {index : Nat} {a : Activity}
    (ha : t.activities[index]? = some a) :
    (t.advance index a).activities[index]? = some (a.step t.host).1 :=
  List.getElem?_set_self (List.getElem?_eq_some_iff.1 ha).1

theorem getElem?_advance_of_ne {index other : Nat} (hne : index ≠ other) (a : Activity)
    (t : Traffic) : (t.advance index a).activities[other]? = t.activities[other]? :=
  List.getElem?_set_ne hne

theorem getElem?_start_of_lt {t : Traffic} {other : Nat} (hlt : other < t.activities.length)
    (index : Nat) (task : Task) :
    (t.start index task).activities[other]? = t.activities[other]? :=
  List.getElem?_append_left hlt

theorem eq_of_getElem?_start {t : Traffic} {index other : Nat} {task : Task} {a : Activity}
    (hle : t.activities.length ≤ other)
    (ha : (t.start index task).activities[other]? = some a) : a = task.activity := by
  rw [start, List.getElem?_append_right hle] at ha
  exact List.mem_singleton.1 (List.mem_of_getElem? ha)

/-! ### The journal -/

theorem deeds_advance (f : Deed → Option α) (index : Nat) (a : Activity) (t : Traffic) :
    (t.advance index a).deeds f = t.deeds f ++ (a.step t.host).2.1.filterMap f := by
  simp only [deeds, advance, List.filterMap_append, List.filterMap_map]
  rfl

theorem past_advance_self (index : Nat) (a : Activity) (t : Traffic) :
    (t.advance index a).past index = t.past index ++ (a.step t.host).2.1 := by
  simp only [past, advance, List.filter_append, List.filter_map, List.map_append, List.map_map]
  congr 1
  have hall : (a.step t.host).2.1.filter
      ((fun entry : Nat × Deed => decide (entry.1 = index)) ∘ fun deed => (index, deed)) =
      (a.step t.host).2.1 := by
    rw [List.filter_eq_self]
    intro deed _
    simp only [Function.comp, decide_true]
  rw [hall]
  exact List.map_id _

theorem past_advance_of_ne {index other : Nat} (hne : index ≠ other) (a : Activity) (t : Traffic) :
    (t.advance index a).past other = t.past other := by
  simp only [past, advance, List.filter_append, List.filter_map, List.map_append, List.map_map]
  have hnone : (a.step t.host).2.1.filter
      ((fun entry : Nat × Deed => decide (entry.1 = other)) ∘ fun deed => (index, deed)) = [] := by
    rw [List.filter_eq_nil_iff]
    intro deed _
    simpa only [Function.comp, decide_eq_true_eq] using hne
  rw [hnone, List.map_nil, List.append_nil]

theorem mem_past {t : Traffic} {index : Nat} {deed : Deed} :
    deed ∈ t.past index ↔ (index, deed) ∈ t.journal := by
  simp only [past, List.mem_map, List.mem_filter, decide_eq_true_eq]
  constructor
  · rintro ⟨entry, ⟨hmem, rfl⟩, rfl⟩
    exact hmem
  · intro hmem
    exact ⟨(index, deed), ⟨hmem, rfl⟩, rfl⟩

/-! ### What each activity keeps -/

/-- Whoever has done something is there. -/
def Signed (t : Traffic) : Prop :=
  ∀ entry ∈ t.journal, entry.1 < t.activities.length

theorem Signed.advance {t : Traffic} (ht : t.Signed) {index : Nat} {a : Activity}
    (ha : t.activities[index]? = some a) : (t.advance index a).Signed := by
  intro entry hentry
  rw [length_advance]
  rcases List.mem_append.1 hentry with hold | hnew
  · exact ht entry hold
  · obtain ⟨deed, _, rfl⟩ := List.mem_map.1 hnew
    exact (List.getElem?_eq_some_iff.1 ha).1

theorem Signed.start {t : Traffic} (ht : t.Signed) (index : Nat) (task : Task) :
    (t.start index task).Signed := by
  intro entry hentry
  have hold := ht entry hentry
  rw [length_start]
  omega

/-- Who is not there yet has done nothing. -/
theorem Signed.past_eq_nil {t : Traffic} (ht : t.Signed) {index : Nat}
    (hindex : t.activities.length ≤ index) : t.past index = [] := by
  apply List.eq_nil_iff_forall_not_mem.2
  intro deed hdeed
  have hlt := ht (index, deed) (mem_past.1 hdeed)
  simp only at hlt
  omega

theorem perm_flatMap_filter (entries : List (Nat × Deed)) (count : Nat)
    (hentries : ∀ entry ∈ entries, entry.1 < count) :
    ((List.range count).flatMap fun i => entries.filter fun entry => entry.1 = i).Perm entries := by
  induction count generalizing entries with
  | zero =>
    have hnil : entries = [] :=
      List.eq_nil_iff_forall_not_mem.2 fun entry hentry => Nat.not_lt_zero _ (hentries entry hentry)
    rw [hnil]
    exact .refl _
  | succ n ih =>
    have hlow := ih (entries.filter fun entry => decide (entry.1 < n)) (by
      intro entry hentry
      exact of_decide_eq_true (List.mem_filter.1 hentry).2)
    have hbelow : ((List.range n).flatMap fun i => entries.filter fun entry => entry.1 = i) =
        (List.range n).flatMap fun i => (entries.filter fun entry => decide (entry.1 < n)).filter
          fun entry => entry.1 = i := by
      apply List.flatMap_congr
      intro i hi
      have hlt := List.mem_range.1 hi
      rw [List.filter_filter]
      apply List.filter_congr
      intro entry _
      by_cases heq : entry.1 = i
      · simp only [heq, hlt, decide_true, Bool.and_self]
      · simp only [heq, decide_false, Bool.false_and]
    have hlast : (entries.filter fun entry => entry.1 = n) =
        entries.filter fun entry => !decide (entry.1 < n) := by
      apply List.filter_congr
      intro entry hentry
      have hlt := hentries entry hentry
      by_cases heq : entry.1 = n
      · simp only [heq, Nat.lt_irrefl, decide_true, decide_false, Bool.not_false]
      · have hbelow : entry.1 < n := by omega
        simp only [heq, hbelow, decide_true, decide_false, Bool.not_true]
    rw [List.range_succ, List.flatMap_append, List.flatMap_singleton, hbelow, hlast]
    exact (hlow.append_right _).trans (List.filter_append_perm _ entries)

/-- The deeds of one sort are, up to order, those of all activities together. -/
theorem Signed.deeds_perm {t : Traffic} (ht : t.Signed) (f : Deed → Option α) :
    (t.deeds f).Perm
      ((List.range t.activities.length).flatMap fun i => (t.past i).filterMap f) := by
  have hperm := (perm_flatMap_filter t.journal t.activities.length ht).filterMap
    fun entry => f entry.2
  rw [List.filterMap_flatMap] at hperm
  simp only [past, List.filterMap_map]
  exact hperm.symm

/-- A relation between each activity and its own past, at traffic that began with `count` calls. -/
structure Keeps (R : Nat → Activity → List Deed → Prop) (count : Nat) (t : Traffic) : Prop where
  calls : count ≤ t.activities.length
  signed : t.Signed
  related : ∀ i a, t.activities[i]? = some a → R i a (t.past i)

/-- A relation between an activity and its own past that every step keeps holds in every run,
whatever the others do meanwhile. -/
theorem run_local {R : Nat → Activity → List Deed → Prop} {h : Host} {calls : List Call}
    (hcall : ∀ i call, calls[i]? = some call → R i call.activity [])
    (htask : ∀ i (task : Task), calls.length ≤ i → R i task.activity [])
    (hstep : ∀ i a past host next deeds after, Effect host a next deeds after → R i a past →
      R i next (past ++ deeds))
    (moves : List Move) : Keeps R calls.length ((ofCalls h calls).run moves) := by
  apply run_induction
  · refine ⟨?_, ?_, ?_⟩
    · exact Nat.le_of_eq (List.length_map _).symm
    · intro entry hentry
      cases hentry
    · intro i a ha
      rw [ofCalls, List.getElem?_map, Option.map_eq_some_iff] at ha
      obtain ⟨call, hi, rfl⟩ := ha
      exact hcall i call hi
  · intro t i a ht ha
    refine ⟨?_, ht.signed.advance ha, ?_⟩
    · rw [length_advance]
      exact ht.calls
    · intro j b hb
      by_cases hij : i = j
      · subst hij
        rw [getElem?_advance_self ha, Option.some.injEq] at hb
        rw [past_advance_self, ← hb]
        exact hstep i a (t.past i) t.host _ _ _ (a.effect t.host) (ht.related i a ha)
      · rw [getElem?_advance_of_ne hij] at hb
        rw [past_advance_of_ne hij]
        exact ht.related j b hb
  · intro t i task ht _
    have hcalls := ht.calls
    refine ⟨?_, ht.signed.start i task, ?_⟩
    · rw [length_start]
      omega
    · intro j b hb
      by_cases hj : j < t.activities.length
      · rw [getElem?_start_of_lt hj] at hb
        exact ht.related j b hb
      · have hle := Nat.le_of_not_lt hj
        rw [eq_of_getElem?_start hle hb]
        change R j task.activity (t.past j)
        rw [ht.signed.past_eq_nil hle]
        exact htask j task (by omega)

/-- What follows from the relation, and holds of whoever has done nothing, holds of every past. -/
theorem Keeps.of_past {R : Nat → Activity → List Deed → Prop} {count : Nat} {t : Traffic}
    (ht : Keeps R count t) {Q : List Deed → Prop} {i : Nat} (hnil : Q [])
    (hrelated : ∀ a, R i a (t.past i) → Q (t.past i)) : Q (t.past i) := by
  by_cases hlt : i < t.activities.length
  · exact hrelated _ (ht.related i _ (List.getElem?_eq_getElem hlt))
  · rw [ht.signed.past_eq_nil (Nat.le_of_not_lt hlt)]
    exact hnil

/-- Nothing changes with a step that does nothing. -/
theorem advance_of_idle {t : Traffic} {index : Nat} {a : Activity}
    (ha : t.activities[index]? = some a) (hidle : a.step t.host = (a, [], t.host)) :
    t.advance index a = t := by
  obtain ⟨hlt, hget⟩ := List.getElem?_eq_some_iff.1 ha
  have hset : t.activities.set index a = t.activities := by
    rw [← hget, List.set_getElem_self]
  simp only [advance, hidle, hset, List.map_nil, List.append_nil]

/-! ### Weights -/

theorem total_eq_zero {weight : Activity → Nat} {t : Traffic}
    (hzero : ∀ a ∈ t.activities, weight a = 0) : t.total weight = 0 := by
  unfold total
  generalize t.activities = activities at hzero
  induction activities with
  | nil => rfl
  | cons first rest ih =>
    have hrest := ih fun a ha => hzero a (List.mem_cons_of_mem _ ha)
    have hfirst := hzero first List.mem_cons_self
    simp only [List.map_cons, List.sum_cons]
    omega

theorem total_ofCalls {weight : Activity → Nat} (hweight : ∀ call : Call, weight call.activity = 0)
    (h : Host) (calls : List Call) : (ofCalls h calls).total weight = 0 := by
  apply total_eq_zero
  intro a ha
  obtain ⟨call, _, rfl⟩ := List.mem_map.1 ha
  exact hweight call

theorem total_advance (weight : Activity → Nat) {t : Traffic} {index : Nat} {a : Activity}
    (ha : t.activities[index]? = some a) :
    (t.advance index a).total weight + weight a =
      t.total weight + weight (a.step t.host).1 := by
  suffices hset : ∀ (l : List Activity) (i : Nat) (b : Activity), l[i]? = some a →
      ((l.set i b).map weight).sum + weight a = (l.map weight).sum + weight b from
    hset t.activities index (a.step t.host).1 ha
  intro l i b hl
  induction l generalizing i with
  | nil => simp at hl
  | cons first rest ih =>
    cases i with
    | zero =>
      simp only [List.getElem?_cons_zero, Option.some.injEq] at hl
      subst hl
      simp only [List.set_cons_zero, List.map_cons, List.sum_cons]
      omega
    | succ i =>
      simp only [List.getElem?_cons_succ] at hl
      have hrest := ih i hl
      simp only [List.set_cons_succ, List.map_cons, List.sum_cons]
      omega

theorem total_start (weight : Activity → Nat) (t : Traffic) (index : Nat) (task : Task) :
    (t.start index task).total weight = t.total weight + weight task.activity := by
  simp only [total, start, List.map_append, List.sum_append, List.map_cons, List.map_nil,
    List.sum_cons, List.sum_nil, Nat.add_zero]

theorem total_start_of_eq_zero {weight : Activity → Nat} {task : Task}
    (hweight : weight task.activity = 0) (t : Traffic) (index : Nat) :
    (t.start index task).total weight = t.total weight := by
  rw [total_start, hweight, Nat.add_zero]

/-! ### The transport and the registry -/

theorem launches_advance (index : Nat) (a : Activity) (t : Traffic) :
    (t.advance index a).launches = t.launches ++ (a.step t.host).2.1.filterMap Deed.task? :=
  deeds_advance Deed.task? index a t

theorem sent_advance (index : Nat) (a : Activity) (t : Traffic) :
    (t.advance index a).sent = t.sent ++ (a.step t.host).2.1.filterMap Deed.post? :=
  deeds_advance Deed.post? index a t

theorem tasks_advance (index : Nat) (a : Activity) (t : Traffic) :
    (t.advance index a).host.tasks =
      t.host.tasks ++ (a.step t.host).2.1.filterMap Deed.task? :=
  (a.effect t.host).grownBy.tasks

theorem mem_ids_advance (index : Nat) (a : Activity) (t : Traffic) {id : Int64}
    (hid : id ∈ t.host.commands.ids) : id ∈ (t.advance index a).host.commands.ids := by
  change id ∈ (a.step t.host).2.2.commands.ids
  rw [(a.effect t.host).grownBy.ids]
  exact List.mem_append_left _ hid

theorem posts_run (h : Host) (calls : List Call) (moves : List Move) :
    ((ofCalls h calls).run moves).host.posts =
      h.posts ++ ((ofCalls h calls).run moves).sent := by
  apply run_induction (P := fun t => t.host.posts = h.posts ++ t.sent)
  · exact (List.append_nil _).symm
  · intro t i a ht _
    change (a.step t.host).2.2.posts = _
    rw [(a.effect t.host).posts_eq, ht, sent_advance, List.append_assoc]
  · intro t i task ht _
    exact ht

/-- The registry has grown by the ids of the tasks launched, each of which answers one. -/
structure Registered (h : Host) (t : Traffic) : Prop where
  ids : t.host.commands.ids = h.commands.ids ++ t.launchedIds
  captures : t.launchedIds.length = t.launches.length

theorem registered_run (h : Host) (calls : List Call) (moves : List Move) :
    Registered h ((ofCalls h calls).run moves) := by
  apply run_induction
  · exact ⟨(List.append_nil _).symm, rfl⟩
  · intro t i a ht _
    have hgrown := (a.effect t.host).grownBy
    refine ⟨?_, ?_⟩
    · change (a.step t.host).2.2.commands.ids = _
      rw [hgrown.ids, ht.ids, launchedIds, launchedIds, launches_advance, List.filterMap_append,
        List.append_assoc]
    · have hold := ht.captures
      rw [launchedIds] at hold ⊢
      rw [launches_advance, List.filterMap_append, List.length_append, List.length_append, hold,
        hgrown.captures]
  · intro t i task ht _
    exact ⟨ht.ids, ht.captures⟩

end Traffic

end Telemetry
