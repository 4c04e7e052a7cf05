import Telemetry.Proofs.Stats.Conservation

/-!
No upload shows a request before it is counted.

A request is counted before it is recorded, and a flush takes the outcomes before it takes the
counts. So whatever outcome a flush holds when it takes the counts was counted by then, and its
count is in this upload or in an earlier one. The count may well travel ahead of the outcome, but
never behind it.
-/
namespace Telemetry

/-- How many outcomes of an upload have a status. -/
def StatsUpload.outcomesOf (u : StatsUpload) (status : UInt16) : Nat :=
  u.requests.countP (·.status == status)

/-- An upload without anything adds nothing to a sum. -/
theorem StatsUpload.sum_filter_not_hasNothing {f : StatsUpload → Nat}
    (hf : ∀ u : StatsUpload, u.HasNothing → f u = 0) (uploads : List StatsUpload) :
    ((uploads.filter fun u => ¬ u.HasNothing).map f).sum = (uploads.map f).sum := by
  induction uploads with
  | nil => rfl
  | cons u rest ih =>
    by_cases hu : u.HasNothing
    · rw [List.filter_cons_of_neg (by simp [hu]), List.map_cons, List.sum_cons, hf u hu,
        Nat.zero_add, ih]
    · rw [List.filter_cons_of_pos (by simp [hu]), List.map_cons, List.map_cons, List.sum_cons,
        List.sum_cons, ih]

theorem StatsUpload.outcomesOf_of_hasNothing (status : UInt16) (u : StatsUpload)
    (hu : u.HasNothing) : u.outcomesOf status = 0 := by
  rw [outcomesOf, hu.1]
  rfl

theorem StatsUpload.countOf_of_hasNothing (status : UInt16) (u : StatsUpload)
    (hu : u.HasNothing) : u.countOf status = 0 := by
  have hnone : u.statusCodes.get? status = none := by
    rw [Dictionary.get?, hu.2]
    rfl
  rw [countOf, hnone]
  rfl

namespace Activity

/-- One for a request that has been counted and is about to be recorded. -/
def pending (status : UInt16) : Activity → Nat
  | .recording r => if r.isNotable && r.status == status then 1 else 0
  | _ => 0

/-- The outcomes that a flush holds while it has yet to take the counts. -/
def held (status : UInt16) : Activity → Nat
  | .takingCounts _ requests => requests.countP (·.status == status)
  | _ => 0

end Activity

namespace Effect

variable {h after : Host} {a next : Activity} {deeds : List Deed}

/-- Nothing is recorded that was not pending, and nothing is pending that was not counted. -/
theorem pending_le (hs : Effect h a next deeds after) (status : UInt16) :
    (deeds.filterMap Deed.recorded?).countP (·.status == status) + next.pending status ≤
      a.pending status + (deeds.filterMap Deed.counted?).count status := by
  cases hs with
  | counts r =>
    change 0 + (if r.isNotable && r.status == status then 1 else 0) ≤ 0 + [r.status].count status
    rw [List.count_singleton]
    cases r.isNotable <;> cases r.status == status <;> decide
  | records r log hnotable =>
    change [r.outcome].countP _ + 0 ≤ (if r.isNotable && r.status == status then 1 else 0) + 0
    rw [List.countP_singleton, hnotable]
    exact Nat.le_refl _
  | _ => exact Nat.zero_le _

/-- The outcomes of an upload are the ones that its flush held. -/
theorem held_eq (hs : Effect h a next deeds after) (status : UInt16) :
    ((deeds.filterMap Deed.upload?).map (·.outcomesOf status)).sum + next.held status =
      a.held status + ((deeds.filterMap Deed.outcomes?).flatten).countP (·.status == status) := by
  cases hs with
  | takesOutcomes c =>
    change 0 + h.outcomes.toList.countP _ = 0 + (h.outcomes.toList ++ []).countP _
    rw [List.append_nil]
  | _ => rfl

/-- A flush that takes the counts leaves none. -/
theorem uploads_cases (hs : Effect h a next deeds after) :
    deeds.filterMap Deed.upload? = [] ∨
      ∃ upload, deeds.filterMap Deed.upload? = [upload] ∧ after.statusCodes = .empty := by
  cases hs with
  | takesNothing | takesCounts => exact Or.inr ⟨_, rfl, rfl⟩
  | _ => exact Or.inl rfl

end Effect

namespace Traffic

/-- What holds of the outcomes and the counts of one status. -/
structure CountedFirst (status : UInt16) (t : Traffic) : Prop where
  recorded : t.recorded.countP (·.status == status) + t.total (Activity.pending status) ≤
    t.counted status
  drained : (t.uploads.map (·.outcomesOf status)).sum + t.total (Activity.held status) =
    t.drained.flatten.countP (·.status == status)
  shown : t.counted status < 2 ^ 64 → ∀ first, first <+: t.uploads →
    (first.map (·.outcomesOf status)).sum ≤ (first.map (·.countOf status)).sum

namespace CountedFirst

variable {status : UInt16} {t : Traffic} {i : Nat} {a : Activity}

theorem advance_recorded (ht : CountedFirst status t) (ha : t.activities[i]? = some a) :
    (t.advance i a).recorded.countP (·.status == status) +
      (t.advance i a).total (Activity.pending status) ≤ (t.advance i a).counted status := by
  have hstep := (a.effect t.host).pending_le status
  have htotal := total_advance (Activity.pending status) ha
  have hbefore := ht.recorded
  simp only [Traffic.recorded, counted, deeds_advance, List.countP_append, List.count_append]
    at hbefore ⊢
  omega

theorem advance_drained (ht : CountedFirst status t) (ha : t.activities[i]? = some a) :
    ((t.advance i a).uploads.map (·.outcomesOf status)).sum +
      (t.advance i a).total (Activity.held status) =
        (t.advance i a).drained.flatten.countP (·.status == status) := by
  have hstep := (a.effect t.host).held_eq status
  have htotal := total_advance (Activity.held status) ha
  have hbefore := ht.drained
  simp only [uploads, Traffic.drained, deeds_advance, List.map_append, List.sum_append,
    List.flatten_append, List.countP_append] at hbefore ⊢
  omega

/-- When the counts have just been taken, nothing that was counted is left, so all uploads together
show at most what was recorded, which is at most what was counted. -/
theorem shown_of_empty (hrecorded : t.recorded.countP (·.status == status) ≤ t.counted status)
    (hdrained : (t.uploads.map (·.outcomesOf status)).sum ≤
      t.drained.flatten.countP (·.status == status))
    {h : Host} (houtcomes : h.outcomes = .empty) (hcodes : h.statusCodes = .empty)
    (hconserved : Conserved h t) (hroom : t.counted status < 2 ^ 64)
    (hempty : t.host.statusCodes = .empty) :
    (t.uploads.map (·.outcomesOf status)).sum ≤ (t.uploads.map (·.countOf status)).sum := by
  have hcounts := hconserved.counts status
  have hlists := congrArg (List.countP (·.status == status)) hconserved.outcomes
  have hzero : (StatusCounter.empty.get status).toNat = 0 := rfl
  rw [hcodes, hempty, hzero] at hcounts
  rw [houtcomes, List.countP_append, List.countP_append] at hlists
  change 0 + _ = _ at hlists
  have hsum := hcounts (by omega)
  omega

theorem advance (ht : CountedFirst status t) (ha : t.activities[i]? = some a) {h : Host}
    (houtcomes : h.outcomes = .empty) (hcodes : h.statusCodes = .empty)
    (hconserved : Conserved h t) : CountedFirst status (t.advance i a) := by
  have hrecorded := ht.advance_recorded ha
  have hdrained := ht.advance_drained ha
  refine ⟨hrecorded, hdrained, ?_⟩
  intro hroom first hfirst
  have hold : first <+: t.uploads →
      (first.map (·.outcomesOf status)).sum ≤ (first.map (·.countOf status)).sum := by
    apply ht.shown
    simp only [counted, deeds_advance, List.count_append] at hroom ⊢
    omega
  have huploads := uploads_advance i a t
  rcases (a.effect t.host).uploads_cases with hnone | ⟨upload, hone, hempty⟩
  · rw [huploads, hnone, List.append_nil] at hfirst
    exact hold hfirst
  · rw [huploads, hone, List.prefix_concat_iff] at hfirst
    rcases hfirst with hall | hbefore
    · -- the counts have just been taken, so they are all in the uploads
      rw [hone] at huploads
      rw [hall, ← huploads]
      exact shown_of_empty (by omega) (by omega) houtcomes hcodes (hconserved.advance i a) hroom
        hempty
    · exact hold hbefore

end CountedFirst

theorem countedFirst_run {h : Host} (houtcomes : h.outcomes = .empty)
    (hcodes : h.statusCodes = .empty) (calls : List Call) (moves : List Move) (status : UInt16) :
    CountedFirst status ((ofCalls h calls).run moves) := by
  suffices hboth : Conserved h ((ofCalls h calls).run moves) ∧
      CountedFirst status ((ofCalls h calls).run moves) from hboth.2
  apply run_induction (P := fun t => Conserved h t ∧ CountedFirst status t)
  · refine ⟨conserved_run h calls [], ?_, ?_, ?_⟩
    · rw [total_ofCalls (by intro call; cases call <;> rfl)]
      exact Nat.zero_le _
    · rw [total_ofCalls (by intro call; cases call <;> rfl)]
      rfl
    · intro _ first hfirst
      rw [List.prefix_nil.1 hfirst]
      exact Nat.le_refl 0
  · rintro t i a ⟨hconserved, ht⟩ ha
    exact ⟨hconserved.advance i a, ht.advance ha houtcomes hcodes hconserved⟩
  · rintro t i task ⟨hconserved, ht⟩ _
    refine ⟨⟨hconserved.outcomes, hconserved.counts⟩, ?_, ?_, ht.shown⟩
    · rw [total_start_of_eq_zero (by cases task <;> rfl)]
      exact ht.recorded
    · rw [total_start_of_eq_zero (by cases task <;> rfl)]
      exact ht.drained

/-- From empty buffers, and whatever requests and flushes come between one another, the first so
many uploads never show more outcomes with a status than they show counts for it. The uploads are
in the order in which they took the counts. A count must have had room for all the requests. -/
theorem shown_le_counted (h : Host) (houtcomes : h.outcomes = .empty)
    (hcodes : h.statusCodes = .empty) (calls : List Call) (moves : List Move) (status : UInt16)
    (hroom : ((ofCalls h calls).run moves).counted status < 2 ^ 64) (n : Nat) :
    let first := ((ofCalls h calls).run moves).shipped.take n
    (first.map (·.outcomesOf status)).sum ≤ (first.map (·.countOf status)).sum := by
  intro first
  obtain ⟨all, hall, hshipped⟩ :
      ∃ all, all <+: ((ofCalls h calls).run moves).uploads ∧
        first = all.filter fun u => ¬ u.HasNothing :=
    List.prefix_filter_iff.1 (List.take_prefix n _)
  have hshown := (countedFirst_run houtcomes hcodes calls moves status).shown hroom all hall
  rw [hshipped,
    StatsUpload.sum_filter_not_hasNothing (StatsUpload.outcomesOf_of_hasNothing status),
    StatsUpload.sum_filter_not_hasNothing (StatsUpload.countOf_of_hasNothing status)]
  exact hshown

/-- A flush comes between the count of a request and its record, so the two travel apart. -/
theorem shown_le_counted_apart :
    let calls : List Call := [.account .panicked, .flush .unreached, .flush .unreached]
    let t := (ofCalls (.fresh "") calls).run [.advance 0, .advance 1, .advance 1, .advance 0,
      .advance 2, .advance 2]
    t.shipped.map (·.outcomesOf 500) = [0, 1] ∧
      ((t.shipped.take 2).map (·.outcomesOf 500)).sum ≤
        ((t.shipped.take 2).map (·.countOf 500)).sum := by
  intro calls t
  exact ⟨by decide, shown_le_counted (.fresh "") rfl rfl calls _ 500 (by decide) 2⟩

end Traffic

end Telemetry
