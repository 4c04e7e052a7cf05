/-!
The registry of commands that have been started.

Ids are never removed, so each of them is started at most once for the life of the registry.
Main statements: `tryStart` succeeds exactly for a new id, and afterwards the registry holds
the old ids and then that one.
-/
namespace Telemetry

/-- The ids of started commands, in the order in which they were started. -/
structure CommandRegistry where
  ids : List Int64
  nodup : ids.Nodup

namespace CommandRegistry

/-- The registry of an agent that has started nothing. -/
def empty : CommandRegistry := ⟨[], .nil⟩

instance : Inhabited CommandRegistry := ⟨empty⟩

def isRunning (r : CommandRegistry) (id : Int64) : Bool :=
  decide (id ∈ r.ids)

def size (r : CommandRegistry) : Nat := r.ids.length

def isEmpty (r : CommandRegistry) : Bool := r.ids.isEmpty

/-- Marks a command as started; `false` if it already was. -/
def tryStart (r : CommandRegistry) (id : Int64) : Bool × CommandRegistry :=
  if h : id ∈ r.ids then (false, r)
  else
    (true, ⟨r.ids ++ [id], List.nodup_append.2
      ⟨r.nodup, List.pairwise_singleton _ id, fun a ha b hb => by
        rintro rfl
        exact h (List.mem_singleton.1 hb ▸ ha)⟩⟩)

theorem tryStart_fst (r : CommandRegistry) (id : Int64) :
    (r.tryStart id).1 = true ↔ id ∉ r.ids := by
  unfold tryStart
  split <;> simp_all

theorem ids_tryStart {r : CommandRegistry} {id : Int64} (h : id ∉ r.ids) :
    (r.tryStart id).2.ids = r.ids ++ [id] := by
  unfold tryStart
  rw [dif_neg h]

end CommandRegistry

end Telemetry
