import Mathlib.Data.List.AList
import Mathlib.Data.List.Perm.Subperm

/-!
# Finite maps of lists

A finite map is an association list without repeated keys (`AList`) whose values do not depend
on the key. This file adds what Mathlib has no name for: updating every value (`mapVals`) and,
for maps into lists, the elements of all the lists together (`elems`), with the effect of an
insertion, of an erasure and of a filter on them.
-/

/-- A finite map from `K` to `V`. -/
abbrev GreaterWill.Map (K V : Type) := AList fun _ : K => V

namespace AList
open GreaterWill

section
variable {K V W : Type}

/-- Apply `f` to every value. -/
def mapVals (f : V → W) (m : Map K V) : Map K W :=
  ⟨m.entries.map (Sigma.map id fun _ => f), m.nodupKeys.map₂ fun _ => f⟩

/-- The elements of all the lists of `m`, one list after the other. -/
def elems (m : Map K (List V)) : List V := m.entries.flatMap (·.2)

@[simp] theorem entries_mapVals (f : V → W) (m : Map K V) :
    (m.mapVals f).entries = m.entries.map (Sigma.map id fun _ => f) := rfl

@[simp] theorem elems_empty : (∅ : Map K (List V)).elems = [] := rfl

theorem elems_mapVals_filter (p : V → Bool) (m : Map K (List V)) :
    (m.mapVals (·.filter p)).elems = m.elems.filter p := by
  simp [elems, List.flatMap_map, Sigma.map, List.filter_flatMap]

end

variable {K V W : Type} [DecidableEq K]

theorem mem_entries_iff {m : Map K V} {k : K} {v : V} :
    (⟨k, v⟩ : Sigma fun _ => V) ∈ m.entries ↔ m.lookup k = some v :=
  mem_lookup_iff.symm

theorem lookup_insert_eq_ite {m : Map K V} {k k' : K} {v : V} :
    (m.insert k v).lookup k' = if k' = k then some v else m.lookup k' := by
  split
  · next h => rw [h, lookup_insert]
  · next h => exact lookup_insert_ne h

@[simp] theorem lookup_mapVals (f : V → W) (m : Map K V) (k : K) :
    (m.mapVals f).lookup k = (m.lookup k).map f :=
  List.dlookup_map₂ k

/-! ## The elements of a map into lists -/

theorem mem_elems {m : Map K (List V)} {v : V} :
    v ∈ m.elems ↔ ∃ k l, m.lookup k = some l ∧ v ∈ l := by
  simp only [elems, List.mem_flatMap]
  constructor
  · rintro ⟨⟨k, l⟩, hmem, hv⟩
    exact ⟨k, l, mem_entries_iff.mp hmem, hv⟩
  · rintro ⟨k, l, hmem, hv⟩
    exact ⟨⟨k, l⟩, mem_entries_iff.mpr hmem, hv⟩

theorem elems_erase (m : Map K (List V)) (k : K) :
    (m.erase k).elems = (m.entries.kerase k).flatMap (·.2) := rfl

theorem elems_insert (m : Map K (List V)) (k : K) (l : List V) :
    (m.insert k l).elems = l ++ (m.erase k).elems := by
  rw [elems_erase, elems, entries_insert, List.flatMap_cons]

/-- A key's list can be brought to the front. -/
theorem elems_perm {m : Map K (List V)} {k : K} {l : List V} (h : m.lookup k = some l) :
    m.elems.Perm (l ++ (m.erase k).elems) := by
  have hmem : (⟨k, l⟩ : Sigma fun _ => List V) ∈ m.entries := mem_entries_iff.mpr h
  have hkey : k ∈ m.entries.keys := List.mem_keys_of_mem hmem
  obtain ⟨v, l₁, l₂, -, hsplit, herase⟩ := List.exists_of_kerase hkey
  have hv : v = l := by
    have : (⟨k, v⟩ : Sigma fun _ => List V) ∈ m.entries := by simp [hsplit]
    exact m.nodupKeys.eq_of_mk_mem this hmem
  subst hv
  have hrest : (m.erase k).elems = (l₁ ++ l₂).flatMap (·.2) := by rw [elems_erase, herase]
  rw [hrest, elems, hsplit]
  simp only [List.flatMap_append, List.flatMap_cons]
  exact List.perm_append_comm_assoc _ _ _

theorem elems_erase_of_lookup_eq_none {m : Map K (List V)} {k : K} (h : m.lookup k = none) :
    (m.erase k).elems = m.elems := by
  have hkey : k ∉ m.entries.keys := lookup_eq_none.mp h
  rw [elems_erase, List.kerase_of_notMem_keys hkey, elems]

/-- Replacing a list by a sublist of it leaves a part of the elements. -/
theorem elems_insert_subperm {m : Map K (List V)} {k : K} {l l' : List V}
    (h : m.lookup k = some l) (hl : l'.Sublist l) : (m.insert k l').elems.Subperm m.elems := by
  rw [elems_insert]
  exact ((hl.append_right _).subperm).trans (elems_perm h).symm.subperm

/-- Adding an element at the end of the list of `k`, which may be missing. -/
theorem elems_insert_concat {m : Map K (List V)} {k : K} {v : V} :
    (m.insert k ((m.lookup k).getD [] ++ [v])).elems.Perm (v :: m.elems) := by
  rw [elems_insert]
  cases h : m.lookup k with
  | none => simp [elems_erase_of_lookup_eq_none h]
  | some l =>
    have hperm := (elems_perm h).cons v
    refine .trans ?_ hperm.symm
    simp

end AList
