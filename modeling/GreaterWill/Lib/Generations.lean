import Mathlib.Data.List.Basic

/-!
# Logs in generations

A log that is rotated: new items go to the current generation, a rotation makes it the newest of
the old generations and drops the oldest one when there are more than `max + 1`. What is kept is a
suffix of all items (`Generations.Suffix`), and only a rotation of a full log loses any
(`oldest_append_kept_rotate`).
-/

namespace GreaterWill

/-- A log with at most `max + 1` old generations, the newest first. -/
structure Generations (α : Type*) (max : Nat) where
  rotated : List (List α)
  current : List α
  bound : rotated.length ≤ max + 1

namespace Generations
variable {α : Type*} {max : Nat} (g : Generations α max)

/-- A log without items. -/
def empty (α : Type*) (max : Nat) : Generations α max := ⟨[], [], Nat.zero_le _⟩

/-- Every item that is still there, in order. -/
def kept : List α := g.rotated.reverse.flatten ++ g.current

/-- No generation can be added without dropping one. -/
def Full : Prop := g.rotated.length = max + 1

/-- The generation that the next rotation drops. -/
def oldest : List α := (g.rotated[max]?).getD []

def rotate : Generations α max where
  rotated := (g.current :: g.rotated).take (max + 1)
  current := []
  bound := by rw [List.length_take]; exact Nat.min_le_left _ _

def append (items : List α) : Generations α max := { g with current := g.current ++ items }

@[simp] theorem current_append (items : List α) :
    (g.append items).current = g.current ++ items := rfl

@[simp] theorem rotated_append (items : List α) : (g.append items).rotated = g.rotated := rfl

@[simp] theorem append_nil : g.append [] = g := by rw [append, List.append_nil]

theorem kept_append (items : List α) : (g.append items).kept = g.kept ++ items :=
  (List.append_assoc _ _ _).symm

variable {g}

theorem oldest_of_not_full (h : ¬ g.Full) : g.oldest = [] := by
  have hlt : g.rotated.length ≤ max := Nat.le_of_lt_succ (Nat.lt_of_le_of_ne g.bound h)
  rw [oldest, List.getElem?_eq_none hlt]
  rfl

theorem kept_rotate (g : Generations α max) :
    g.rotate.kept = (g.rotated.take max).reverse.flatten ++ g.current := by
  simp [kept, rotate]

/-- A rotation loses the oldest generation and nothing else. -/
theorem oldest_append_kept_rotate (g : Generations α max) :
    g.oldest ++ g.rotate.kept = g.kept := by
  have holdest : g.oldest = (g.rotated.drop max).reverse.flatten := by
    rw [oldest]
    cases hget : g.rotated[max]? with
    | none =>
      rw [List.drop_eq_nil_of_le (List.getElem?_eq_none_iff.mp hget)]
      rfl
    | some last =>
      obtain ⟨hlt, hlast⟩ := List.getElem?_eq_some_iff.mp hget
      rw [List.drop_eq_getElem_cons hlt, hlast, List.drop_eq_nil_of_le g.bound]
      simp
  rw [kept_rotate, holdest, ← List.append_assoc, ← List.flatten_append, ← List.reverse_append,
    List.take_append_drop, kept]

/-- What is kept is a suffix of all items, with the last of them. -/
structure Suffix (g : Generations α max) (items : List α) : Prop where
  suffix : g.kept <:+ items
  nonempty : items ≠ [] → g.kept ≠ []

theorem Suffix.empty : Suffix (.empty α max) [] := ⟨List.suffix_refl [], fun h => h⟩

theorem Suffix.append {items : List α} (h : g.Suffix items) (new : List α) :
    (g.append new).Suffix (items ++ new) := by
  obtain ⟨lost, hlost⟩ := h.suffix
  refine ⟨⟨lost, ?_⟩, fun hne hkept => ?_⟩
  · rw [kept_append, ← List.append_assoc, hlost]
  · rw [kept_append, List.append_eq_nil_iff] at hkept
    rw [hkept.2, List.append_nil] at hne
    exact h.nonempty hne hkept.1

theorem Suffix.rotate {items : List α} (h : g.Suffix items) (hcurrent : g.current ≠ []) :
    g.rotate.Suffix items := by
  refine ⟨List.IsSuffix.trans ⟨g.oldest, oldest_append_kept_rotate g⟩ h.suffix, fun _ hkept => ?_⟩
  rw [kept_rotate, List.append_eq_nil_iff] at hkept
  exact hcurrent hkept.2

end Generations

end GreaterWill
