import Telemetry.Proofs.Stats.RoundTrip
import Telemetry.Proofs.Traffic.Run

/-!
Statistics are neither lost nor duplicated.

Requests add to the statistics while flushes take from them, and a flush takes the outcomes in one
step and the counts in a later one. `Conserved` relates what was added, what was taken and what is
left at every moment. What a flush has taken is its own business from then on: `FlushTrail` says how
far a flush has come and what it has done, and nobody else can change either. `Post.Carries` is what
the collector gets to see of it: whoever decodes the body of the POST finds the upload.
-/
namespace Telemetry

/-- The count of a status in an upload. -/
def StatsUpload.countOf (u : StatsUpload) (status : UInt16) : Nat :=
  ((u.statusCodes.get? status).getD 0).toNat

namespace Effect

variable {h after : Host} {a next : Activity} {deeds : List Deed}

/-- What a step records is in the buffer afterwards unless the step takes it, in order. -/
theorem outcomes_eq (hs : Effect h a next deeds after) :
    h.outcomes.toList ++ deeds.filterMap Deed.recorded? =
      (deeds.filterMap Deed.outcomes?).flatten ++ after.outcomes.toList := by
  cases hs with
  | records r log hnotable => rfl
  | takesOutcomes c =>
    change h.outcomes.toList ++ [] = (h.outcomes.toList ++ []) ++ []
    rw [List.append_nil, List.append_nil]
  | _ => exact List.append_nil _

/-- What a step counts is in the counter afterwards unless the step takes it, as long as the count
has room for it. -/
theorem counts_eq (hs : Effect h a next deeds after) (status : UInt16)
    (hroom : (h.statusCodes.get status).toNat +
      (deeds.filterMap Deed.counted?).count status < 2 ^ 64) :
    ((deeds.filterMap Deed.upload?).map (·.countOf status)).sum +
        (after.statusCodes.get status).toNat =
      (h.statusCodes.get status).toNat + (deeds.filterMap Deed.counted?).count status := by
  cases hs with
  | counts r =>
    change _ + [r.status].count status < _ at hroom
    change 0 + ((h.statusCodes.inc r.status).get status).toNat = _ + [r.status].count status
    rw [StatusCounter.get_inc]
    by_cases hstatus : status = r.status
    · -- there is room for one more, so the word does not wrap around
      subst hstatus
      rw [List.count_singleton_self] at hroom ⊢
      rw [if_pos rfl, UInt64.toNat_add, Nat.zero_add]
      exact Nat.mod_eq_of_lt hroom
    · rw [if_neg hstatus, List.count_singleton, beq_false_of_ne (Ne.symm hstatus)]
      exact Nat.zero_add _
  | takesNothing c requests hempty | takesCounts c requests log hfull => rfl
  | _ => exact Nat.zero_add _

end Effect

namespace Traffic

/-- The outcomes that were recorded, in order. -/
def recorded (t : Traffic) : List RequestOutcome :=
  t.deeds Deed.recorded?

/-- The lists of outcomes that flushes took, in order. -/
def drained (t : Traffic) : List (List RequestOutcome) :=
  t.deeds Deed.outcomes?

/-- How many requests with a status were counted. -/
def counted (status : UInt16) (t : Traffic) : Nat :=
  (t.deeds Deed.counted?).count status

/-- What flushes took in all, in the order in which they took the counts. -/
def uploads (t : Traffic) : List StatsUpload :=
  t.deeds Deed.upload?

/-- The uploads that flushes had something for. -/
def shipped (t : Traffic) : List StatsUpload :=
  t.uploads.filter fun u => ¬ u.HasNothing

/-- What was added is what was taken and what is left. A count must have had room for all that
was added to it. -/
structure Conserved (h : Host) (t : Traffic) : Prop where
  outcomes : h.outcomes.toList ++ t.recorded = t.drained.flatten ++ t.host.outcomes.toList
  counts : ∀ status, (h.statusCodes.get status).toNat + t.counted status < 2 ^ 64 →
    (t.uploads.map (·.countOf status)).sum + (t.host.statusCodes.get status).toNat =
      (h.statusCodes.get status).toNat + t.counted status

theorem uploads_advance (i : Nat) (a : Activity) (t : Traffic) :
    (t.advance i a).uploads = t.uploads ++ (a.step t.host).2.1.filterMap Deed.upload? :=
  deeds_advance Deed.upload? i a t

theorem Conserved.advance {h : Host} {t : Traffic} (ht : Conserved h t) (i : Nat) (a : Activity) :
    Conserved h (t.advance i a) := by
  have heffect := a.effect t.host
  refine ⟨?_, ?_⟩
  · have hstep := heffect.outcomes_eq
    simp only [recorded, drained, deeds_advance, List.flatten_append]
    change _ = _ ++ (a.step t.host).2.2.outcomes.toList
    rw [List.append_assoc, ← hstep, ← List.append_assoc, ← List.append_assoc]
    exact congrArg (· ++ _) ht.outcomes
  · intro status hroom
    simp only [counted, deeds_advance, List.count_append] at hroom ⊢
    have hbefore := ht.counts status (by rw [counted]; omega)
    have hstep := heffect.counts_eq status (by rw [counted] at hbefore; omega)
    rw [counted] at hbefore
    rw [uploads_advance, List.map_append, List.sum_append]
    change _ + ((a.step t.host).2.2.statusCodes.get status).toNat = _
    omega

theorem conserved_run (h : Host) (calls : List Call) (moves : List Move) :
    Conserved h ((ofCalls h calls).run moves) := by
  apply run_induction
  · exact ⟨List.append_nil _, fun status _ => Nat.zero_add _⟩
  · intro t i a ht _
    exact ht.advance i a
  · intro t i task ht _
    exact ⟨ht.outcomes, ht.counts⟩

end Traffic

/-! ### Where the uploads go -/

/-- Whether a POST goes to a stats address, of whatever client. -/
def Post.isStats (post : Post) : Bool :=
  "/uploads/stats/create".toList.isSuffixOf post.url.toList

/-- A POST takes an upload to the stats address of a client. -/
structure Post.Carries (post : Post) (c : Client) (headers : Http.Headers)
    (upload : StatsUpload) : Prop where
  url : post.url = c.config.apiBase ++ "/uploads/stats/create"
  headers : post.headers = headers
  body : StatsUpload.decode post.body = .ok upload

theorem Cargo.carries_post (c : Client) (headers : Http.Headers) (upload : StatsUpload) :
    (Cargo.post c headers (.stats upload)).Carries c headers upload :=
  ⟨rfl, rfl, upload.decode_encode⟩

/-- Only statistics are posted to a stats address, since no path is the end of another one. -/
theorem Cargo.isStats_post (cargo : Cargo) (c : Client) (headers : Http.Headers) :
    (cargo.post c headers).isStats = cargo.seeksCommands := by
  have hpath : cargo.path.toList <:+ (cargo.post c headers).url.toList := by
    refine ⟨c.config.apiBase.toList, ?_⟩
    rw [post, ClientConfig.url, String.toList_append]
  rw [Post.isStats, Bool.eq_iff_iff, List.isSuffixOf_iff_suffix]
  cases cargo with
  | stats u => exact iff_of_true hpath rfl
  | report r =>
    have hapart : ¬ (Client.statsPath.toList <:+ Client.panicsPath.toList ∨
        Client.panicsPath.toList <:+ Client.statsPath.toList) := by decide
    refine iff_of_false (fun hstats => ?_) Bool.false_ne_true
    exact hapart (List.suffix_or_suffix_of_suffix hstats hpath)
  | capture kind u =>
    have hapart : ¬ (Client.statsPath.toList <:+ (Client.capturePath kind).toList ∨
        (Client.capturePath kind).toList <:+ Client.statsPath.toList) := by cases kind <;> decide
    refine iff_of_false (fun hstats => ?_) Bool.false_ne_true
    exact hapart (List.suffix_or_suffix_of_suffix hstats hpath)

namespace Activity

/-- Whether the statistics may yet be taken or posted. -/
def mayShip : Activity → Bool
  | .takingOutcomes _ | .takingCounts .. => true
  | .sending _ cargo => cargo.seeksCommands
  | .counting _ | .recording _ | .capturing .. | .awaiting .. | .dispatching .. | .looking _
  | .ended => false

/-- Whether the POST is behind and only its answer is left. -/
def hasSent : Activity → Bool
  | .awaiting .. | .dispatching .. | .ended => true
  | .counting _ | .recording _ | .takingOutcomes _ | .takingCounts .. | .capturing ..
  | .sending .. | .looking _ => false

end Activity

/-- What does not look at launches finds no more after them than before. -/
theorem Deed.filterMap_append_launched {f : Deed → Option α}
    (hf : ∀ task, f (.launched task) = none) (deeds : List Deed) (tasks : List Task) :
    (deeds ++ tasks.map Deed.launched).filterMap f = deeds.filterMap f := by
  have hlaunched : (tasks.map Deed.launched).filterMap f = [] := by
    rw [List.filterMap_eq_nil_iff]
    intro deed hdeed
    obtain ⟨task, _, rfl⟩ := List.mem_map.1 hdeed
    exact hf task
  rw [List.filterMap_append, hlaunched, List.append_nil]

/-- After the POST tasks may be launched, and that is all. -/
theorem Effect.of_hasSent {h after : Host} {a next : Activity} {deeds : List Deed}
    (hs : Effect h a next deeds after) (ha : a.hasSent = true) :
    next.hasSent = true ∧ ∃ tasks : List Task, deeds = tasks.map .launched := by
  cases hs with
  | launches c agent command rest launched kind log hkind hnew =>
    exact ⟨rfl, [.capture c command.id kind], rfl⟩
  | closes | hears | passes | halts | rests => exact ⟨rfl, [], rfl⟩
  | _ => cases ha

/-- Somebody who takes no statistics and posts none. -/
structure Bystander (a : Activity) (past : List Deed) : Prop where
  keeps : a.mayShip = false
  drained : past.filterMap Deed.outcomes? = []
  uploads : past.filterMap Deed.upload? = []
  posts : (past.filterMap Deed.post?).filter Post.isStats = []

namespace Bystander

theorem of_not_mayShip {a : Activity} (ha : a.mayShip = false) : Bystander a [] :=
  ⟨ha, rfl, rfl, rfl⟩

theorem append {a next : Activity} {past deeds : List Deed} (ha : Bystander a past)
    (hnow : Bystander next deeds) : Bystander next (past ++ deeds) := by
  refine ⟨hnow.keeps, ?_, ?_, ?_⟩
  · rw [List.filterMap_append, ha.drained, hnow.drained]
    rfl
  · rw [List.filterMap_append, ha.uploads, hnow.uploads]
    rfl
  · rw [List.filterMap_append, List.filter_append, ha.posts, hnow.posts]
    rfl

theorem step {h after : Host} {a next : Activity} {past deeds : List Deed}
    (ha : Bystander a past) (hs : Effect h a next deeds after) :
    Bystander next (past ++ deeds) := by
  apply ha.append
  have hkeeps := ha.keeps
  cases hs with
  | takesOutcomes | takesNothing | takesCounts => cases hkeeps
  | posts c cargo headers hc =>
    refine ⟨rfl, rfl, rfl, ?_⟩
    change [cargo.post c headers].filter Post.isStats = []
    rw [List.filter_eq_nil_iff]
    intro post hpost
    change cargo.seeksCommands = false at hkeeps
    rw [List.mem_singleton.1 hpost, Cargo.isStats_post, hkeeps]
    decide
  | counts | records | launches | looks => exact ⟨rfl, rfl, rfl, rfl⟩
  | _ => exact .of_not_mayShip rfl

end Bystander

/-- What a flush that can post has done when it has come so far. -/
inductive FlushTrail (c : Client) (headers : Http.Headers) : Activity → List Deed → Prop where
  | due : FlushTrail c headers (.takingOutcomes c) []
  | half (requests : List RequestOutcome) :
    FlushTrail c headers (.takingCounts c requests) [.tookOutcomes requests]
  | idle (upload : StatsUpload) (hempty : upload.HasNothing) :
    FlushTrail c headers .ended [.tookOutcomes upload.requests, .tookCounts upload]
  | loaded (upload : StatsUpload) (hfull : ¬ upload.HasNothing) :
    FlushTrail c headers (.sending c (.stats upload))
      [.tookOutcomes upload.requests, .tookCounts upload]
  | shipped (upload : StatsUpload) (hfull : ¬ upload.HasNothing) (a : Activity)
    (ha : a.hasSent = true) (tasks : List Task) :
    FlushTrail c headers a ([.tookOutcomes upload.requests, .tookCounts upload,
      .sent (Cargo.post c headers (.stats upload))] ++ tasks.map .launched)

namespace FlushTrail

variable {c : Client} {headers : Http.Headers} {a : Activity} {past : List Deed}

theorem step (hc : c.CanPost headers) (ha : FlushTrail c headers a past) {h after : Host}
    {next : Activity} {deeds : List Deed} (hs : Effect h a next deeds after) :
    FlushTrail c headers next (past ++ deeds) := by
  cases ha with
  | due =>
    cases hs with
    | takesOutcomes => exact .half h.outcomes.toList
  | half requests =>
    cases hs with
    | takesNothing _ _ hempty => exact .idle ⟨requests, h.statusCodes.counts⟩ hempty
    | takesCounts _ _ log hfull => exact .loaded ⟨requests, h.statusCodes.counts⟩ hfull
  | idle upload hempty =>
    cases hs with
    | rests => exact .idle upload hempty
  | loaded upload hfull =>
    cases hs with
    | posts _ _ others hothers =>
      cases hc.valid.symm.trans hothers.valid
      exact .shipped upload hfull (.awaiting _ _ _) rfl []
    | drops _ _ log hdrop => exact absurd hc (hdrop headers)
  | shipped upload hfull a ha tasks =>
    obtain ⟨hnext, more, rfl⟩ := hs.of_hasSent ha
    rw [List.append_assoc, ← List.map_append]
    exact .shipped upload hfull next hnext (tasks ++ more)

/-- A flush that is over has taken one upload, and has posted it once unless nothing is in it. -/
theorem of_isOver (ha : FlushTrail c headers a past) (hover : a.isOver = true) :
    ∃ upload : StatsUpload, past.filterMap Deed.outcomes? = [upload.requests] ∧
      past.filterMap Deed.upload? = [upload] ∧
      past.filterMap Deed.post? =
        if upload.HasNothing then [] else [Cargo.post c headers (.stats upload)] := by
  cases ha with
  | due | half requests | loaded upload hfull => cases hover
  | idle upload hempty =>
    refine ⟨upload, rfl, rfl, ?_⟩
    rw [if_pos hempty]
    rfl
  | shipped upload hfull a ha tasks =>
    refine ⟨upload, Deed.filterMap_append_launched (fun _ => rfl) _ tasks,
      Deed.filterMap_append_launched (fun _ => rfl) _ tasks, ?_⟩
    rw [if_neg hfull]
    exact Deed.filterMap_append_launched (fun _ => rfl) _ tasks

end FlushTrail

/-- What is kept of each activity: a flush has its trail, and all others are bystanders. -/
structure PlaysPart (calls : List Call) (i : Nat) (a : Activity) (past : List Deed) : Prop where
  flush : ∀ c headers, calls[i]? = some (.flush c) → c.CanPost headers →
    FlushTrail c headers a past
  other : (∀ c, calls[i]? ≠ some (.flush c)) → Bystander a past

namespace Traffic

theorem playsPart_run (h : Host) (calls : List Call) (moves : List Move) :
    Keeps (PlaysPart calls) calls.length ((ofCalls h calls).run moves) := by
  apply run_local
  · intro i call hcall
    refine ⟨?_, ?_⟩
    · intro c headers hflush _
      rw [hcall, Option.some.injEq] at hflush
      subst hflush
      exact .due
    · intro hother
      apply Bystander.of_not_mayShip
      cases call with
      | flush c => exact absurd hcall (hother c)
      | account r | report c trace message span | dispatch c reply | look l => rfl
  · intro i task hi
    refine ⟨?_, ?_⟩
    · intro c headers hflush _
      rw [List.getElem?_eq_none hi] at hflush
      cases hflush
    · intro _
      apply Bystander.of_not_mayShip
      cases task <;> rfl
  · intro i a past host next deeds after hs ha
    refine ⟨?_, ?_⟩
    · intro c headers hflush hc
      exact (ha.flush c headers hflush hc).step hc hs
    · intro hother
      exact (ha.other hother).step hs

/-- Somebody other than a flush takes nothing and posts nothing to a stats address. -/
theorem Keeps.past_other {calls : List Call} {t : Traffic}
    (ht : Keeps (PlaysPart calls) calls.length t) {i : Nat}
    (hi : ∀ c, calls[i]? ≠ some (.flush c)) :
    (t.past i).filterMap Deed.outcomes? = [] ∧ (t.past i).filterMap Deed.upload? = [] ∧
      ((t.past i).filterMap Deed.post?).filter Post.isStats = [] := by
  apply ht.of_past (Q := fun past => past.filterMap Deed.outcomes? = [] ∧
    past.filterMap Deed.upload? = [] ∧ (past.filterMap Deed.post?).filter Post.isStats = [])
  · exact ⟨rfl, rfl, rfl⟩
  · intro a ha
    have hother := ha.other hi
    exact ⟨hother.drained, hother.uploads, hother.posts⟩

/-- When all flushes of a client are over, what has been posted to stats addresses is what they
shipped, and each upload as often as it was shipped. -/
theorem Keeps.sent_perm {calls : List Call} {t : Traffic}
    (ht : Keeps (PlaysPart calls) calls.length t) {c : Client} {headers : Http.Headers}
    (hc : c.CanPost headers) (hclient : ∀ d, Call.flush d ∈ calls → d = c)
    (hover : ∀ i : Nat, calls[i]? = some (.flush c) →
      ∃ a, t.activities[i]? = some a ∧ a.isOver = true) :
    (t.sent.filter Post.isStats).Perm
      (t.shipped.map fun upload => Cargo.post c headers (.stats upload)) := by
  have hsent := (ht.signed.deeds_perm Deed.post?).filter Post.isStats
  have hshipped := ((ht.signed.deeds_perm Deed.upload?).filter fun upload =>
    ¬ upload.HasNothing).map fun upload => Cargo.post c headers (.stats upload)
  rw [List.filter_flatMap] at hsent hshipped
  rw [List.map_flatMap] at hshipped
  refine hsent.trans (.trans (.of_eq ?_) hshipped.symm)
  -- both sides are strung together from the pasts, which agree one by one
  apply List.flatMap_congr
  intro i _
  by_cases hflush : ∃ d, calls[i]? = some (.flush d)
  · obtain ⟨d, hd⟩ := hflush
    obtain rfl := hclient d (List.mem_of_getElem? hd)
    obtain ⟨a, ha, hended⟩ := hover i hd
    obtain ⟨upload, -, hupload, hpost⟩ :=
      ((ht.related i a ha).flush d headers hd hc).of_isOver hended
    rw [hpost, hupload]
    by_cases hempty : upload.HasNothing
    · have hnone : [upload].filter (fun u => decide ¬ u.HasNothing) = [] := by simp [hempty]
      rw [if_pos hempty, hnone]
      rfl
    · have hone : [upload].filter (fun u => decide ¬ u.HasNothing) = [upload] := by simp [hempty]
      rw [if_neg hempty, List.filter_cons_of_pos (Cargo.isStats_post _ d headers), hone]
      rfl
  · obtain ⟨-, hupload, hpost⟩ := ht.past_other (i := i) fun d hd => hflush ⟨d, hd⟩
    rw [hupload, hpost]
    rfl

/-- At every moment what was recorded is what flushes took and what is left, in order, and the
counts add up for every status whose count had room. The POSTs handed to the transport are those
of the journal. Only flushes take anything or post it to a stats address. A flush that is over has
taken one list and one map, which make up one upload. If there was something in either, it has
handed over one POST, to the stats address of its client, whose body decodes to that upload; if
there was nothing in both, it has handed over none. So when the flushes of a client are over, the
POSTs to stats addresses match the uploads that had something in them one to one. -/
theorem stats_conserved (h : Host) (calls : List Call) (moves : List Move) :
    let t := (ofCalls h calls).run moves
    h.outcomes.toList ++ t.recorded = t.drained.flatten ++ t.host.outcomes.toList ∧
    (∀ status, (h.statusCodes.get status).toNat + t.counted status < 2 ^ 64 →
      (t.uploads.map (·.countOf status)).sum + (t.host.statusCodes.get status).toNat =
        (h.statusCodes.get status).toNat + t.counted status) ∧
    t.host.posts = h.posts ++ t.sent ∧
    (∀ i, (∀ c, calls[i]? ≠ some (.flush c)) →
      (t.past i).filterMap Deed.outcomes? = [] ∧ (t.past i).filterMap Deed.upload? = [] ∧
        ((t.past i).filterMap Deed.post?).filter Post.isStats = []) ∧
    (∀ i c headers a, calls[i]? = some (.flush c) → c.CanPost headers →
      t.activities[i]? = some a → a.isOver = true →
      ∃ upload : StatsUpload, (t.past i).filterMap Deed.outcomes? = [upload.requests] ∧
        (t.past i).filterMap Deed.upload? = [upload] ∧
        (upload.requests = [] ∧ upload.statusCodes.entries = [] →
          (t.past i).filterMap Deed.post? = []) ∧
        (¬ (upload.requests = [] ∧ upload.statusCodes.entries = []) →
          ∃ post, (t.past i).filterMap Deed.post? = [post] ∧ post.Carries c headers upload)) ∧
    ∀ c headers, c.CanPost headers → (∀ d, Call.flush d ∈ calls → d = c) →
      (∀ i : Nat, calls[i]? = some (.flush c) → ∃ a, t.activities[i]? = some a ∧ a.isOver = true) →
      ∃ posts, posts.Perm (t.sent.filter Post.isStats) ∧
        List.Forall₂ (fun post upload => post.Carries c headers upload) posts t.shipped := by
  intro t
  have hconserved : Conserved h t := conserved_run h calls moves
  have hkeeps : Keeps (PlaysPart calls) calls.length t := playsPart_run h calls moves
  refine ⟨hconserved.outcomes, hconserved.counts, posts_run h calls moves, ?_, ?_, ?_⟩
  · intro i hi
    exact hkeeps.past_other hi
  · intro i c headers a hflush hc ha hover
    obtain ⟨upload, houtcomes, hupload, hpost⟩ :=
      ((hkeeps.related i a ha).flush c headers hflush hc).of_isOver hover
    refine ⟨upload, houtcomes, hupload, fun hempty => ?_, fun hfull => ?_⟩
    · exact hpost.trans (if_pos hempty)
    · exact ⟨_, hpost.trans (if_neg hfull), Cargo.carries_post c headers upload⟩
  · intro c headers hc hclient hover
    refine ⟨_, (hkeeps.sent_perm hc hclient hover).symm, ?_⟩
    rw [List.forall₂_map_left_iff, List.forall₂_same]
    exact fun upload _ => Cargo.carries_post c headers upload

/-- A request is counted and recorded, and a flush takes both. A second flush finds nothing. -/
theorem stats_conserved_one_flush :
    let calls : List Call := [.account .panicked, .flush .unreached, .flush .unreached]
    let moves : List Move := [.advance 0, .advance 0, .advance 1, .advance 1, .advance 2,
      .advance 1, .advance 2, .advance 1]
    let t := (ofCalls (.fresh "") calls).run moves
    let upload : StatsUpload := ⟨[Served.panicked.outcome], .ofList [(500, 1)]⟩
    (t.uploads.map (·.countOf 500)).sum + (t.host.statusCodes.get 500).toNat = 1 ∧
      (t.past 2).filterMap Deed.post? = [] ∧
      (∃ post, (t.past 1).filterMap Deed.post? = [post] ∧
        post.url = "https://api.deferpanic.com/v1.17/uploads/stats/create" ∧
        StatsUpload.decode post.body = .ok upload) ∧
      (t.sent.filter Post.isStats).map (fun post => StatsUpload.decode post.body) =
        [.ok upload] := by
  intro calls moves t upload
  obtain ⟨-, hcounts, -, -, hflush, hmatch⟩ := stats_conserved (.fresh "") calls moves
  obtain ⟨headers, hheaders⟩ := Client.exists_canPost_unreached
  have hended : ∀ i ∈ [1, 2], t.activities[i]?.map Activity.isOver = some true := by
    decide +kernel
  obtain ⟨first, hfirst, hover⟩ := Option.map_eq_some_iff.1 (hended 1 (by decide))
  obtain ⟨second, hsecond, hidle⟩ := Option.map_eq_some_iff.1 (hended 2 (by decide))
  have htaken : (t.past 1).filterMap Deed.upload? = [upload] := by decide +kernel
  have hnothing : (t.past 2).filterMap Deed.upload? = [⟨[], .ofList []⟩] := by decide +kernel
  have hshipped : t.shipped = [upload] := by decide +kernel
  have hroom : ((Host.fresh "").statusCodes.get 500).toNat + t.counted 500 < 2 ^ 64 := by
    decide +kernel
  have hone : ((Host.fresh "").statusCodes.get 500).toNat + t.counted 500 = 1 := by
    decide +kernel
  refine ⟨?_, ?_, ?_, ?_⟩
  · simp only [t]
    exact (hcounts 500 hroom).trans hone
  · obtain ⟨own, -, hown, hnone, -⟩ := hflush 2 .unreached headers second rfl hheaders hsecond hidle
    obtain rfl := List.singleton_inj.1 (hown.symm.trans hnothing)
    exact hnone ⟨rfl, rfl⟩
  · obtain ⟨own, -, hown, -, hposts⟩ := hflush 1 .unreached headers first rfl hheaders hfirst hover
    obtain rfl := List.singleton_inj.1 (hown.symm.trans htaken)
    obtain ⟨post, hpost, hcarries⟩ := hposts (by decide)
    exact ⟨post, hpost, hcarries.url.trans (by decide), hcarries.body⟩
  · have hclient : ∀ d, Call.flush d ∈ calls → d = .unreached := by
      intro d hd
      simp only [calls, List.mem_cons, List.not_mem_nil, or_false, reduceCtorEq, false_or,
        Call.flush.injEq, or_self] at hd
      exact hd
    have hover : ∀ i : Nat, calls[i]? = some (.flush .unreached) →
        ∃ a, t.activities[i]? = some a ∧ a.isOver = true := by
      intro i hi
      match i with
      | 0 => cases hi
      | 1 => exact ⟨first, hfirst, hover⟩
      | 2 => exact ⟨second, hsecond, hidle⟩
      | i + 3 => cases hi
    obtain ⟨posts, hperm, hcarry⟩ := hmatch .unreached headers hheaders hclient hover
    change List.Forall₂ _ posts t.shipped at hcarry
    rw [hshipped] at hcarry
    obtain ⟨post, _, hcarries, hrest, rfl⟩ := List.forall₂_cons_right_iff.1 hcarry
    cases hrest
    rw [List.perm_singleton.1 hperm.symm, List.map_singleton, hcarries.body]

end Traffic

end Telemetry
