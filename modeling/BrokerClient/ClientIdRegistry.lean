/-!
# Client-ID registries

The client IDs that open connections hold. Connections that must not share an ID share a registry.
-/

namespace BrokerClient

/-- A set of claimed client IDs. -/
structure ClientIdRegistry where
  ids : List String
  nodup : ids.Nodup
  deriving DecidableEq, Repr

namespace ClientIdRegistry

def empty : ClientIdRegistry := ⟨[], .nil⟩

instance : Inhabited ClientIdRegistry := ⟨empty⟩

def holds (r : ClientIdRegistry) (id : String) : Bool := decide (id ∈ r.ids)
def size (r : ClientIdRegistry) : Nat := r.ids.length

/-- Claims an ID, unless it is held. -/
def claim? (r : ClientIdRegistry) (id : String) : Option ClientIdRegistry :=
  if h : id ∈ r.ids then none
  else some ⟨id :: r.ids, List.nodup_cons.2 ⟨h, r.nodup⟩⟩

/-- Gives an ID back. One that is not held stays so. -/
def release (r : ClientIdRegistry) (id : String) : ClientIdRegistry :=
  ⟨r.ids.erase id, r.nodup.erase id⟩

theorem claim?_eq_none_iff (r : ClientIdRegistry) (id : String) :
    r.claim? id = none ↔ id ∈ r.ids := by
  by_cases h : id ∈ r.ids <;> simp [claim?, h]

theorem mem_of_claim? {r r' : ClientIdRegistry} {id : String} (h : r.claim? id = some r')
    (x : String) : x ∈ r'.ids ↔ x = id ∨ x ∈ r.ids := by
  unfold claim? at h
  split at h
  · cases h
  · cases h
    exact List.mem_cons

theorem mem_release (r : ClientIdRegistry) (id x : String) :
    x ∈ (r.release id).ids ↔ x ≠ id ∧ x ∈ r.ids :=
  r.nodup.mem_erase_iff

end ClientIdRegistry

end BrokerClient
