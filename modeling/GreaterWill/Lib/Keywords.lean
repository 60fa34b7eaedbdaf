import Mathlib.Data.List.Infix

/-!
# Keyword tables

A table of labels, each with sets of keywords: a text has the first label of which some set of
keywords occurs in it. A set of keywords can go from a table without a difference if another set,
of the same entry or of an earlier one, occurs wherever it does (`Trims`, `classify_of_trims`).
-/

namespace GreaterWill.Keywords

/-- A label and the sets of keywords that speak for it. -/
structure Entry (α κ : Type*) where
  sets : List (List (List α))
  label : κ

variable {α κ : Type*} {text : List α} {a b : List (List α)}

/-- All keywords of the set occur in the text. -/
def Occurs (text : List α) (a : List (List α)) : Prop := ∀ k ∈ a, k <:+: text

/-- A set of keywords of the entry occurs in the text. -/
def Entry.Meets (text : List α) (e : Entry α κ) : Prop := ∃ a ∈ e.sets, Occurs text a

/-- `a` occurs wherever `b` does. -/
def Covers (a b : List (List α)) : Prop := ∀ k ∈ a, ∃ k' ∈ b, k <:+: k'

/-- `t'` is `t` without sets of keywords that are covered by others; `before` are those of the
entries before. -/
def Trims (before : List (List (List α))) : List (Entry α κ) → List (Entry α κ) → Prop
  | [], [] => True
  | e :: t, e' :: t' =>
    e'.label = e.label ∧ e'.sets ⊆ e.sets ∧
      (∀ b ∈ e.sets, b ∉ e'.sets → ∃ a ∈ e'.sets ++ before, Covers a b) ∧ Trims (before ++ e.sets) t t'
  | _, _ => False

@[simp] theorem occurs_singleton {k : List α} : Occurs text [k] ↔ k <:+: text := by
  simp [Occurs]

theorem occurs_pair {k k' : List α} : Occurs text [k, k'] ↔ k <:+: text ∧ k' <:+: text := by
  simp [Occurs]

theorem Covers.occurs (h : Covers a b) (hb : Occurs text b) : Occurs text a := by
  intro k hk
  obtain ⟨k', hk', hsub⟩ := h k hk
  exact hsub.trans (hb k' hk')

theorem Trims.mono {before before' : List (List (List α))} {t t' : List (Entry α κ)}
    (h : Trims before t t') (hsub : before ⊆ before') : Trims before' t t' := by
  induction t generalizing t' before before' with
  | nil =>
    cases t' with
    | nil => trivial
    | cons => cases h
  | cons e t ih =>
    cases t' with
    | nil => cases h
    | cons e' t' =>
      obtain ⟨hlabel, hkept, hcovers, htrims⟩ := h
      refine ⟨hlabel, hkept, ?_, ih htrims (List.append_subset.mpr ⟨?_, ?_⟩)⟩
      · intro b hb hdropped
        obtain ⟨a, ha, hab⟩ := hcovers b hb hdropped
        refine ⟨a, ?_, hab⟩
        rcases List.mem_append.mp ha with ha | ha
        · exact List.mem_append_left before' ha
        · exact List.mem_append_right e'.sets (hsub ha)
      · exact List.Subset.trans hsub (List.subset_append_left before' e.sets)
      · exact List.subset_append_right before' e.sets

/-- Entries in front that stay. -/
theorem Trims.append_left {t t' : List (Entry α κ)} (h : Trims [] t t') (s : List (Entry α κ))
    (before : List (List (List α))) : Trims before (s ++ t) (s ++ t') := by
  induction s generalizing before with
  | nil => exact h.mono (List.nil_subset before)
  | cons e s ih =>
    exact ⟨rfl, List.Subset.refl e.sets, fun b hb hdropped => absurd hb hdropped, ih _⟩

theorem meets_iff_of_trims {before : List (List (List α))} {e e' : Entry α κ}
    (hsub : e'.sets ⊆ e.sets)
    (hcovers : ∀ b ∈ e.sets, b ∉ e'.sets → ∃ a ∈ e'.sets ++ before, Covers a b)
    (hbefore : ∀ a ∈ before, ¬ Occurs text a) : e.Meets text ↔ e'.Meets text := by
  constructor
  · intro h
    obtain ⟨b, hb, hoccurs⟩ := h
    by_cases hkept : b ∈ e'.sets
    · exact ⟨b, hkept, hoccurs⟩
    · obtain ⟨a, ha, hab⟩ := hcovers b hb hkept
      rcases List.mem_append.mp ha with ha | ha
      · exact ⟨a, ha, hab.occurs hoccurs⟩
      · exact absurd (hab.occurs hoccurs) (hbefore a ha)
  · intro h
    obtain ⟨a, ha, hoccurs⟩ := h
    exact ⟨a, hsub ha, hoccurs⟩

section
variable [DecidableEq α]

instance : Decidable (Occurs text a) := inferInstanceAs (Decidable (∀ k ∈ a, k <:+: text))

instance {e : Entry α κ} : Decidable (e.Meets text) :=
  inferInstanceAs (Decidable (∃ a ∈ e.sets, Occurs text a))

instance : Decidable (Covers a b) := inferInstanceAs (Decidable (∀ k ∈ a, ∃ k' ∈ b, k <:+: k'))

instance Trims.decidable [DecidableEq κ] :
    ∀ (before : List (List (List α))) (t t' : List (Entry α κ)), Decidable (Trims before t t')
  | _, [], [] => .isTrue trivial
  | _, [], _ :: _ => .isFalse id
  | _, _ :: _, [] => .isFalse id
  | before, e :: t, e' :: t' =>
    have := Trims.decidable (before ++ e.sets) t t'
    inferInstanceAs (Decidable (_ ∧ (∀ a ∈ e'.sets, a ∈ e.sets) ∧ _ ∧ _))

/-- The label of a text: that of the first entry it meets. -/
def classify (text : List α) (t : List (Entry α κ)) : Option κ :=
  (t.find? fun e => e.Meets text).map (·.label)

theorem classify_cons (text : List α) (e : Entry α κ) (t : List (Entry α κ)) :
    classify text (e :: t) = if e.Meets text then some e.label else classify text t := by
  by_cases h : e.Meets text
  · simp [classify, h]
  · simp [classify, h]

theorem exists_of_classify {t : List (Entry α κ)} {c : κ} (h : classify text t = some c) :
    ∃ e ∈ t, e.label = c ∧ e.Meets text := by
  rw [classify, Option.map_eq_some_iff] at h
  obtain ⟨e, hfound, hlabel⟩ := h
  exact ⟨e, List.mem_of_find?_eq_some hfound, hlabel, by simpa using List.find?_some hfound⟩

/-- A trimmed table gives the same labels to texts with no keywords of the entries before. -/
theorem classify_of_trims {before : List (List (List α))} {t t' : List (Entry α κ)}
    (h : Trims before t t') (hbefore : ∀ a ∈ before, ¬ Occurs text a) :
    classify text t = classify text t' := by
  induction t generalizing t' before with
  | nil =>
    cases t' with
    | nil => rfl
    | cons => cases h
  | cons e t ih =>
    cases t' with
    | nil => cases h
    | cons e' t' =>
      obtain ⟨hlabel, hsub, hcovers, htrims⟩ := h
      have hmeets := meets_iff_of_trims hsub hcovers hbefore
      rw [classify_cons, classify_cons]
      by_cases he : e.Meets text
      · rw [if_pos he, if_pos (hmeets.mp he), hlabel]
      · rw [if_neg he, if_neg (fun he' => he (hmeets.mpr he'))]
        apply ih htrims
        intro a ha
        rcases List.mem_append.mp ha with ha | ha
        · exact hbefore a ha
        · exact fun hoccurs => he ⟨a, ha, hoccurs⟩

end

end GreaterWill.Keywords
