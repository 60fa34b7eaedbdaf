import Mathlib.Data.List.Basic

/-!
# Scans of a list

What a loop over a list finds: `First p l o` says that `o` is the first element of `l` that meets
`p`, or that there is none. `List.find?` and `List.findSome?` find it. A loop that overwrites what
it found keeps the last: `foldl_or_append`.
-/

namespace GreaterWill

variable {α β : Type*} {p : α → Prop} {l before after : List α} {a : α}

/-- The first element of `l` that meets `p`, if any does. -/
def First (p : α → Prop) (l : List α) : Option α → Prop
  | some a => ∃ before after, l = before ++ a :: after ∧ p a ∧ ∀ x ∈ before, ¬ p x
  | none => ∀ x ∈ l, ¬ p x

theorem First.split (h : ∀ x ∈ before, ¬ p x) (ha : p a) :
    First p (before ++ a :: after) (some a) :=
  ⟨before, after, rfl, ha, h⟩

theorem First.holds (h : First p l (some a)) : p a := by
  obtain ⟨_, _, _, ha, _⟩ := h
  exact ha

theorem First.mem (h : First p l (some a)) : a ∈ l := by
  obtain ⟨before, after, rfl, _, _⟩ := h
  exact List.mem_append_right before List.mem_cons_self

theorem first_find? {f : α → Bool} (hf : ∀ x, f x = true ↔ p x) {o : Option α} :
    First p l o ↔ l.find? f = o := by
  cases o with
  | none => simp [First, hf]
  | some a =>
    rw [List.find?_eq_some_iff_append, hf]
    constructor
    · rintro ⟨before, after, rfl, ha, hbefore⟩
      refine ⟨ha, before, after, rfl, ?_⟩
      intro x hx
      rw [Bool.not_eq_true', ← Bool.not_eq_true, hf]
      exact hbefore x hx
    · rintro ⟨ha, before, after, rfl, hbefore⟩
      refine ⟨before, after, rfl, ha, ?_⟩
      intro x hx
      have hfx := hbefore x hx
      rwa [Bool.not_eq_true', ← Bool.not_eq_true, hf] at hfx

/-- There is always an answer. -/
theorem exists_first (p : α → Prop) (l : List α) : ∃ o, First p l o := by
  classical
  exact ⟨_, (first_find? (f := fun x => decide (p x)) fun x => by simp).mpr rfl⟩

/-- There is one answer. -/
theorem First.unique {o o' : Option α} (h : First p l o) (h' : First p l o') : o = o' := by
  classical
  have hscan : ∀ {o}, First p l o ↔ l.find? (fun x => decide (p x)) = o :=
    first_find? fun x => by simp
  rw [← hscan.mp h, hscan.mp h']

/-- The elements in front of the scan do not matter where none of them meets `p`. -/
theorem First.append {o : Option α} (hbefore : ∀ x ∈ before, ¬ p x) :
    First p (before ++ l) o ↔ First p l o := by
  classical
  have hscan : ∀ {l o}, First p l o ↔ l.find? (fun x => decide (p x)) = o :=
    first_find? fun x => by simp
  have hnone : before.find? (fun x => decide (p x)) = none := by
    rw [List.find?_eq_none]
    simpa using hbefore
  rw [hscan, hscan, List.find?_append, hnone, Option.none_or]

theorem First.findSome? {f : α → Option β} {o : Option α}
    (h : First (fun a => (f a).isSome) l o) : l.findSome? f = o.bind f := by
  cases o with
  | none =>
    rw [Option.bind_none, List.findSome?_eq_none_iff]
    intro x hx
    simpa using h x hx
  | some a =>
    obtain ⟨before, after, rfl, ha, hbefore⟩ := h
    obtain ⟨b, hb⟩ := Option.isSome_iff_exists.mp ha
    rw [Option.bind_some, hb, List.findSome?_eq_some_iff]
    refine ⟨before, a, after, rfl, hb, ?_⟩
    intro x hx
    simpa using hbefore x hx

/-- A loop that overwrites what it found does not see what stands before its last find. -/
theorem foldl_or_append {f : α → Option β} {b : β} (ha : f a = some b)
    (hafter : ∀ x ∈ after, f x = none) (start : Option β) :
    (before ++ a :: after).foldl (fun last x => (f x).or last) start = some b := by
  rw [List.foldl_append, List.foldl_cons, ha, Option.some_or]
  induction after with
  | nil => rfl
  | cons x after ih =>
    obtain ⟨hx, hrest⟩ := List.forall_mem_cons.mp hafter
    rw [List.foldl_cons, hx, Option.none_or]
    exact ih hrest

theorem foldl_or_eq_none {f : α → Option β} (h : ∀ x ∈ l, f x = none) :
    l.foldl (fun last x => (f x).or last) none = none := by
  induction l with
  | nil => rfl
  | cons x l ih =>
    obtain ⟨hx, hrest⟩ := List.forall_mem_cons.mp h
    rw [List.foldl_cons, hx, Option.none_or]
    exact ih hrest

/-- Where some element meets `p`, there is a last one. -/
theorem exists_last (h : ∃ a ∈ l, p a) :
    ∃ before a after, l = before ++ a :: after ∧ p a ∧ ∀ x ∈ after, ¬ p x := by
  induction l with
  | nil => simp at h
  | cons x l ih =>
    by_cases hrest : ∃ a ∈ l, p a
    · obtain ⟨before, a, after, rfl, ha, hafter⟩ := ih hrest
      exact ⟨x :: before, a, after, rfl, ha, hafter⟩
    · obtain ⟨a, hmem, ha⟩ := h
      push Not at hrest
      rcases List.mem_cons.mp hmem with rfl | hmem
      · exact ⟨[], a, l, rfl, ha, hrest⟩
      · exact absurd ha (hrest a hmem)

end GreaterWill
