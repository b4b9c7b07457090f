import Mathlib.Data.List.Basic
import Unified2.Capability.Registry
import Unified2.Proofs.Text.Order

/-! What stands in a registry: one thing under each name, listed in strict order. -/

namespace Unified2.Registry

variable {Name α : Type} {registry : Registry Name α}

/-- The names are those of the entries. -/
theorem mem_keys {name : Name} :
    name ∈ registry.keys ↔ ∃ entry, (name, entry) ∈ registry.entries := by
  simp [keys]

/-- No two things stand under one name. -/
def Distinct (registry : Registry Name α) : Prop := registry.keys.Nodup

/-- An empty registry holds nothing twice. -/
theorem distinct_empty : Distinct ({} : Registry Name α) := List.nodup_nil

section Lookup

variable [DecidableEq Name]

/-- What stands under a name was registered under it. -/
theorem mem_of_lookup {name : Name} {entry : α}
    (found : registry.entries.lookup name = some entry) : (name, entry) ∈ registry.entries := by
  obtain ⟨before, behind, split, -⟩ := List.lookup_eq_some_iff.mp found
  simp [split]

/-- A change takes place under every name. -/
theorem lookup_map (registry : Registry Name α) (change : α → α) (name : Name) :
    (registry.map change).entries.lookup name =
      (registry.entries.lookup name).map change := by
  -- The names stay, so each entry is found or passed over as before.
  obtain ⟨entries⟩ := registry
  simp only [map]
  induction entries with
  | nil => rfl
  | cons entry entries ih =>
    obtain ⟨key, value⟩ := entry
    simp only [List.map_cons, List.lookup_cons, ih]
    cases name == key <;> rfl

/-- A name is taken if something is found under it. -/
theorem lookup_isSome_iff {name : Name} :
    (registry.entries.lookup name).isSome ↔ name ∈ registry.keys := by
  rw [mem_keys]
  constructor
  · intro taken
    obtain ⟨entry, found⟩ := Option.isSome_iff_exists.mp taken
    exact ⟨entry, mem_of_lookup found⟩
  · rintro ⟨entry, isIn⟩
    -- A lookup that finds nothing has seen every entry, this one too.
    by_contra free
    rw [Bool.not_eq_true, Option.isSome_eq_false_iff, Option.isNone_iff_eq_none] at free
    simpa using List.lookup_eq_none_iff.mp free _ isIn

variable [ToString Name]

/-- What is found under a name stands under it. -/
theorem find_eq_ok_iff {name : Name} {entry : α} :
    registry.find name = .ok entry ↔ registry.entries.lookup name = some entry := by
  unfold find
  cases there : registry.entries.lookup name <;> simp

/-- Something is found exactly under the names. -/
theorem exists_find_iff {name : Name} :
    (∃ entry, registry.find name = .ok entry) ↔ name ∈ registry.keys := by
  simp only [find_eq_ok_iff, ← lookup_isSome_iff, Option.isSome_iff_exists]

/-- Looking for a name that is free tells so. -/
theorem find_eq_error_iff {name : Name} {error : RegistryError} :
    registry.find name = .error error ↔
      name ∉ registry.keys ∧ error = .notLoaded (toString name) := by
  rw [← lookup_isSome_iff, find]
  cases registry.entries.lookup name <;> simp [eq_comm]

/-- A name is registered behind the others, unless it is taken. -/
theorem add_eq (registry : Registry Name α) (name : Name) (entry : α) :
    registry.add name entry =
      if name ∈ registry.keys then .error (.duplicate (toString name))
      else .ok ⟨registry.entries ++ [(name, entry)]⟩ := by
  simp only [add, lookup_isSome_iff]

/-- Only a free name is registered. -/
theorem add_eq_ok_iff {name : Name} {entry : α} {after : Registry Name α} :
    registry.add name entry = .ok after ↔
      name ∉ registry.keys ∧ after = ⟨registry.entries ++ [(name, entry)]⟩ := by
  rw [add_eq]
  split <;> simp_all [eq_comm]

/-- A name that is free is no second one. -/
theorem Distinct.add (distinct : registry.Distinct) {name : Name} {entry : α}
    {after : Registry Name α} (added : registry.add name entry = .ok after) : after.Distinct := by
  -- A name is registered only if it is free, and then it stands behind the others.
  obtain ⟨free, rfl⟩ := add_eq_ok_iff.mp added
  rw [Distinct, keys, List.map_append, List.nodup_append]
  refine ⟨distinct, by simp, fun other isIn last isLast same => free ?_⟩
  rw [List.map_singleton, List.mem_singleton] at isLast
  rwa [same, isLast] at isIn

end Lookup

end Unified2.Registry
