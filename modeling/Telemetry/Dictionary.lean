/-!
Dictionaries kept in the order of their keys.

Entries are strictly increasing by key, so two dictionaries with the same entries are equal
whatever the order in which the entries came. Main statement: `get?` after `insert`.
-/
namespace Telemetry

/-- A finite map with its entries in the order of their keys. -/
structure Dictionary (κ : Type) (α : Type) [LT κ] where
  entries : List (κ × α)
  sorted : entries.Pairwise fun a b => a.1 < b.1

namespace Dictionary

variable {κ α : Type} [LT κ]

def empty : Dictionary κ α := ⟨[], .nil⟩

instance : Inhabited (Dictionary κ α) := ⟨empty⟩

theorem ext_entries {d e : Dictionary κ α} (h : d.entries = e.entries) : d = e := by
  cases d; cases e; cases h; rfl

instance [DecidableEq κ] [DecidableEq α] : DecidableEq (Dictionary κ α) := fun d e =>
  decidable_of_iff (d.entries = e.entries) ⟨ext_entries, fun h => h ▸ rfl⟩

def size (d : Dictionary κ α) : Nat := d.entries.length

def isEmpty (d : Dictionary κ α) : Bool := d.entries.isEmpty

def get? [DecidableEq κ] (d : Dictionary κ α) (key : κ) : Option α :=
  d.entries.lookup key

/-- Puts an entry in its place, in the stead of an earlier one with the same key. -/
def insertEntry [DecidableLT κ] [DecidableEq κ] (key : κ) (value : α) :
    List (κ × α) → List (κ × α)
  | [] => [(key, value)]
  | (k, v) :: rest =>
    if key = k then (key, value) :: rest
    else if key < k then (key, value) :: (k, v) :: rest
    else (k, v) :: insertEntry key value rest

theorem mem_insertEntry [DecidableLT κ] [DecidableEq κ] (key : κ) (value : α)
    (entries : List (κ × α)) (e : κ × α)
    (h : e ∈ insertEntry key value entries) : e = (key, value) ∨ e ∈ entries := by
  induction entries with
  | nil => simpa [insertEntry] using h
  | cons first rest ih =>
    obtain ⟨k, v⟩ := first
    simp only [insertEntry] at h
    split at h
    · rcases List.mem_cons.1 h with h | h
      · exact Or.inl h
      · exact Or.inr (List.mem_cons_of_mem _ h)
    · split at h
      · rcases List.mem_cons.1 h with h | h
        · exact Or.inl h
        · exact Or.inr h
      · rcases List.mem_cons.1 h with h | h
        · exact Or.inr (h ▸ List.mem_cons_self)
        · exact (ih h).imp id (List.mem_cons_of_mem _)

theorem lookup_insertEntry [DecidableLT κ] [DecidableEq κ] (key k : κ) (value : α)
    (entries : List (κ × α)) :
    (insertEntry key value entries).lookup k =
      if k = key then some value else entries.lookup k := by
  induction entries with
  | nil => grind [insertEntry]
  | cons first rest ih =>
    obtain ⟨k', v'⟩ := first
    grind [insertEntry]

section Order

variable [LE κ] [DecidableLT κ] [DecidableEq κ] [Std.IsLinearOrder κ] [Std.LawfulOrderLT κ]

theorem insertEntry_sorted (key : κ) (value : α) (entries : List (κ × α))
    (h : entries.Pairwise fun a b => a.1 < b.1) :
    (insertEntry key value entries).Pairwise fun a b => a.1 < b.1 := by
  induction entries with
  | nil => simp [insertEntry]
  | cons first rest ih =>
    obtain ⟨k, v⟩ := first
    have hk := List.pairwise_cons.1 h
    simp only [insertEntry]
    split
    · next heq => exact List.pairwise_cons.2 ⟨fun e he => heq ▸ hk.1 e he, hk.2⟩
    · next hne =>
      split
      · next hlt =>
        refine List.pairwise_cons.2 ⟨fun e he => ?_, h⟩
        rcases List.mem_cons.1 he with rfl | he
        · exact hlt
        · exact Std.lt_trans hlt (hk.1 e he)
      · next hge =>
        refine List.pairwise_cons.2 ⟨fun e he => ?_, ih hk.2⟩
        rcases mem_insertEntry key value rest e he with rfl | he
        · exact Std.lt_of_le_of_ne (Std.not_lt.1 hge) (Ne.symm hne)
        · exact hk.1 e he

def insert (key : κ) (value : α) (d : Dictionary κ α) : Dictionary κ α :=
  ⟨insertEntry key value d.entries, insertEntry_sorted key value d.entries d.sorted⟩

/-- The dictionary of entries in any order; of two entries with one key the later one counts. -/
def ofList (entries : List (κ × α)) : Dictionary κ α :=
  entries.foldl (fun d e => d.insert e.1 e.2) empty

theorem get?_insert (d : Dictionary κ α) (key k : κ) (value : α) :
    (d.insert key value).get? k = if k = key then some value else d.get? k :=
  lookup_insertEntry key k value d.entries

end Order

end Dictionary

end Telemetry
