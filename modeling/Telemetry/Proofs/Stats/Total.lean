import Mathlib.Data.UInt
import Telemetry.Stats.Counter

/-!
The total of a counter.

An entry that is put into a dictionary changes the sum of the values by its own value less that of
the entry in whose stead it comes. So each count adds one to the total as long as there is room, and
the order in which statuses are counted does not matter.
-/
namespace Telemetry

namespace Dictionary

variable {κ α : Type} [DecidableEq κ]

theorem le_sum_of_lookup (weight : α → Nat) (key : κ) (entries : List (κ × α)) :
    ((entries.lookup key).map weight).getD 0 ≤ (entries.map fun e => weight e.2).sum := by
  induction entries with
  | nil => exact Nat.le_refl _
  | cons first rest ih =>
    obtain ⟨k, v⟩ := first
    rw [List.lookup_cons]
    cases key == k with
    | true => exact Nat.le_add_right _ _
    | false => exact ih.trans (Nat.le_add_left _ _)

variable [LT κ] [LE κ] [Std.LawfulOrderLT κ]

theorem lookup_eq_none_of_lt {key : κ} {entries : List (κ × α)}
    (h : ∀ e ∈ entries, key < e.1) : entries.lookup key = none := by
  rw [List.lookup_eq_none_iff]
  intro e he
  rw [bne_iff_ne]
  rintro rfl
  exact Std.lt_irrefl (h e he)

theorem sum_insertEntry [Std.IsLinearOrder κ] [DecidableLT κ] (weight : α → Nat) (key : κ)
    (value : α) {entries : List (κ × α)} (hsorted : entries.Pairwise fun a b => a.1 < b.1) :
    ((insertEntry key value entries).map fun e => weight e.2).sum +
        ((entries.lookup key).map weight).getD 0 =
      (entries.map fun e => weight e.2).sum + weight value := by
  induction entries with
  | nil => simp [insertEntry]
  | cons first rest ih =>
    obtain ⟨k, v⟩ := first
    obtain ⟨hfirst, hrest⟩ := List.pairwise_cons.1 hsorted
    by_cases hsame : key = k
    · subst hsame
      simp only [insertEntry, if_true, List.lookup_cons_self, List.map_cons, List.sum_cons,
        Option.map_some, Option.getD_some]
      omega
    · have hlookup : ((k, v) :: rest).lookup key = rest.lookup key := by
        rw [List.lookup_cons, beq_false_of_ne hsame]
      by_cases hlt : key < k
      · have hnone : rest.lookup key = none :=
          lookup_eq_none_of_lt fun e he => Std.lt_trans hlt (hfirst e he)
        simp only [insertEntry, if_neg hsame, if_pos hlt, hlookup, hnone, List.map_cons,
          List.sum_cons, Option.map_none, Option.getD_none]
        omega
      · have hbelow := ih hrest
        simp only [insertEntry, if_neg hsame, if_neg hlt, hlookup, List.map_cons, List.sum_cons]
        omega

end Dictionary

namespace StatusCounter

/-- All that has been counted. -/
def total (c : StatusCounter) : Nat :=
  (c.counts.entries.map fun e => e.2.toNat).sum

theorem toNat_get (c : StatusCounter) (status : UInt16) :
    (c.get status).toNat = ((c.counts.entries.lookup status).map UInt64.toNat).getD 0 := by
  rw [get, Dictionary.get?]
  cases c.counts.entries.lookup status <;> rfl

theorem toNat_get_le_total (c : StatusCounter) (status : UInt16) :
    (c.get status).toNat ≤ c.total := by
  rw [toNat_get]
  exact Dictionary.le_sum_of_lookup UInt64.toNat status c.counts.entries

/-- As long as there is room, each count adds one to the total. -/
theorem total_inc {c : StatusCounter} (hroom : c.total + 1 < 2 ^ 64) (status : UInt16) :
    (c.inc status).total = c.total + 1 := by
  have hget := c.toNat_get_le_total status
  have hone : (c.get status + 1).toNat = (c.get status).toNat + 1 := by
    rw [UInt64.toNat_add]
    exact Nat.mod_eq_of_lt (by change (c.get status).toNat + 1 < 2 ^ 64; omega)
  have hsum := Dictionary.sum_insertEntry UInt64.toNat status (c.get status + 1) c.counts.sorted
  rw [← toNat_get, hone] at hsum
  change (c.inc status).total + _ = c.total + _ at hsum
  omega

/-- A run of counts shows in each status as often as the status was counted. -/
theorem get_foldl_inc (c : StatusCounter) (statuses : List UInt16) (status : UInt16) :
    (statuses.foldl (fun c s => c.inc s) c).get status =
      c.get status + UInt64.ofNat (statuses.count status) := by
  induction statuses generalizing c with
  | nil => exact (UInt64.add_zero _).symm
  | cons first rest ih =>
    rw [List.foldl_cons, ih, get_inc]
    by_cases hsame : status = first
    · subst hsame
      rw [if_pos rfl, List.count_cons_self, UInt64.ofNat_add, UInt64.add_assoc,
        UInt64.add_comm 1]
      rfl
    · rw [if_neg hsame, List.count_cons_of_ne (Ne.symm hsame)]

/-- As long as there is room, a run of counts adds its length to the total. -/
theorem total_foldl_inc {c : StatusCounter} {statuses : List UInt16}
    (hroom : c.total + statuses.length < 2 ^ 64) :
    (statuses.foldl (fun c s => c.inc s) c).total = c.total + statuses.length := by
  induction statuses generalizing c with
  | nil => rfl
  | cons first rest ih =>
    rw [List.length_cons] at hroom
    have hfirst := total_inc (c := c) (by omega) first
    rw [List.foldl_cons, ih (by omega), hfirst, List.length_cons]
    omega

end StatusCounter

end Telemetry
