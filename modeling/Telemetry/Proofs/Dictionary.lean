import Mathlib.Data.List.Perm.Basic
import Telemetry.Dictionary

/-!
Dictionaries from their entries.

Entries with different keys all stay in the dictionary that is made of them, and their order does
not matter.
-/
namespace Telemetry

namespace Dictionary

variable {κ α : Type} [LT κ] [DecidableLT κ] [DecidableEq κ]

theorem insertEntry_perm {key : κ} {value : α} {entries : List (κ × α)}
    (h : ∀ e ∈ entries, e.1 ≠ key) :
    (insertEntry key value entries).Perm ((key, value) :: entries) := by
  induction entries with
  | nil => exact .refl _
  | cons first rest ih =>
    obtain ⟨k, v⟩ := first
    rw [insertEntry, if_neg fun heq => h _ List.mem_cons_self heq.symm]
    split
    · exact .refl _
    · have hrest := ih fun e he => h e (List.mem_cons_of_mem _ he)
      exact (hrest.cons (k, v)).trans (.swap _ _ rest)

variable [LE κ] [Std.IsLinearOrder κ] [Std.LawfulOrderLT κ]

/-- Inserting entries of different keys keeps them all. -/
theorem foldl_insert_perm {entries : List (κ × α)} {d : Dictionary κ α}
    (h : (d.entries ++ entries).Pairwise fun a b => a.1 ≠ b.1) :
    (entries.foldl (fun d e => d.insert e.1 e.2) d).entries.Perm (d.entries ++ entries) := by
  -- an entry moves from the list into the dictionary, and both together stay what they were
  induction entries generalizing d with
  | nil => rw [List.append_nil]; exact .refl _
  | cons e entries ih =>
    have hnew : ∀ e' ∈ d.entries, e'.1 ≠ e.1 := fun e' he' =>
      (List.pairwise_append.1 h).2.2 e' he' e List.mem_cons_self
    have hinsert : (d.insert e.1 e.2).entries.Perm (e :: d.entries) := insertEntry_perm hnew
    have hall : ((d.insert e.1 e.2).entries ++ entries).Perm (d.entries ++ e :: entries) :=
      (hinsert.append_right entries).trans List.perm_middle.symm
    exact (ih (hall.symm.pairwise h fun hne => hne.symm)).trans hall

/-- A dictionary of entries with different keys has just these entries. -/
theorem ofList_perm {entries : List (κ × α)} (h : entries.Pairwise fun a b => a.1 ≠ b.1) :
    (ofList entries).entries.Perm entries :=
  foldl_insert_perm (d := empty) h

/-- A dictionary is made of its entries in any order. -/
theorem ofList_of_perm {entries : List (κ × α)} {d : Dictionary κ α} (h : entries.Perm d.entries) :
    ofList entries = d := by
  have hsorted : d.entries.Pairwise fun a b => a.1 ≠ b.1 := by
    refine d.sorted.imp fun {a b} hlt heq => ?_
    rw [heq] at hlt
    exact Std.lt_irrefl hlt
  have hperm := ofList_perm (h.symm.pairwise hsorted fun hne => hne.symm)
  refine ext_entries (List.Perm.eq_of_pairwise (fun a b _ _ hab hba => ?_) (ofList entries).sorted
    d.sorted (hperm.trans h))
  exact absurd (Std.lt_trans hab hba) Std.lt_irrefl

end Dictionary

end Telemetry
