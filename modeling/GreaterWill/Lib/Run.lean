import Mathlib.Logic.Relation

/-!
# Runs of a partial step function

A system is a step function `step : σ → α → Option σ`; `α` are the actions, and an action that
cannot be taken gives `none`. `exec step s as` takes the actions of `as` one after the other.
`Along step good s as` says that every action taken on the way meets the condition `good`, which
speaks about the action and the state it is taken in.

An invariant is proved of one step and then holds of every run: `exec_invariant`. A relation
between the states before and after a step that is reflexive and transitive holds between the
ends of every run: `exec_relates`. `Sometime step p s as` says that `p` holds at one of the
actions, as it must for what holds at the end and not at the start: `exec_sometime`. What the
actions of a run give off one after the other is `yields`; an invariant may speak about what was
given off so far: `exec_invariant_yields`.
-/

namespace GreaterWill

variable {σ α : Type*} (step : σ → α → Option σ)

/-- Take the actions one after the other. -/
def exec : σ → List α → Option σ
  | s, [] => some s
  | s, a :: as => (step s a).bind fun s' => exec s' as

/-- Every action of the run meets `good` in the state it is taken in. -/
def Along (good : σ → α → Prop) : σ → List α → Prop
  | _, [] => True
  | s, a :: as => good s a ∧ match step s a with
    | some s' => Along good s' as
    | none => True

instance Along.decidable (good : σ → α → Prop) [∀ s a, Decidable (good s a)] :
    ∀ s as, Decidable (Along step good s as)
  | _, [] => isTrue trivial
  | s, a :: as =>
    match h : step s a with
    | some s' =>
      haveI := Along.decidable good s' as
      decidable_of_iff (good s a ∧ Along step good s' as) (by simp [Along, h])
    | none => decidable_of_iff (good s a) (by simp [Along, h])

variable {step} {good : σ → α → Prop} {s s' s'' : σ} {a : α} {as bs : List α}

@[simp] theorem exec_nil : exec step s [] = some s := rfl

theorem exec_cons : exec step s (a :: as) = some s'' ↔
    ∃ s', step s a = some s' ∧ exec step s' as = some s'' := by
  simp [exec, Option.bind_eq_some_iff]

@[simp] theorem exec_singleton : exec step s [a] = step s a := by
  cases h : step s a <;> simp [exec, h]

/-- Actions that can always be taken. -/
theorem exec_total (f : σ → α → σ) (s : σ) (as : List α) :
    exec (fun s a => some (f s a)) s as = some (as.foldl f s) := by
  induction as generalizing s with
  | nil => rfl
  | cons a as ih => exact ih (f s a)

theorem exec_append : exec step s (as ++ bs) = some s'' ↔
    ∃ s', exec step s as = some s' ∧ exec step s' bs = some s'' := by
  induction as generalizing s with
  | nil => simp
  | cons a as ih =>
    simp only [List.cons_append, exec_cons, ih]
    constructor
    · rintro ⟨t, hs, u, has, hbs⟩
      exact ⟨u, ⟨t, hs, has⟩, hbs⟩
    · rintro ⟨u, ⟨t, hs, has⟩, hbs⟩
      exact ⟨t, hs, u, has, hbs⟩

theorem Along.cons (h : step s a = some s') :
    Along step good s (a :: as) ↔ good s a ∧ Along step good s' as := by
  simp [Along, h]

theorem Along.head (h : Along step good s (a :: as)) : good s a := h.1

theorem Along.append (h : exec step s as = some s') :
    Along step good s (as ++ bs) ↔ Along step good s as ∧ Along step good s' bs := by
  induction as generalizing s with
  | nil =>
    cases h
    simp [Along]
  | cons a as ih =>
    obtain ⟨t, hs, has⟩ := exec_cons.mp h
    rw [List.cons_append, Along.cons hs, Along.cons hs, ih has, and_assoc]

theorem Along.trivial : Along step (fun _ _ => True) s as := by
  induction as generalizing s with
  | nil => exact True.intro
  | cons a as ih =>
    refine ⟨True.intro, ?_⟩
    cases step s a with
    | none => exact True.intro
    | some t => exact ih

theorem Along.and {good' : σ → α → Prop} (h : Along step good s as)
    (h' : Along step good' s as) : Along step (fun s a => good s a ∧ good' s a) s as := by
  induction as generalizing s with
  | nil => exact True.intro
  | cons a as ih =>
    refine ⟨⟨h.1, h'.1⟩, ?_⟩
    have hrest := h.2
    have hrest' := h'.2
    split
    · next t heq =>
      rw [heq] at hrest hrest'
      exact ih hrest hrest'
    · exact True.intro

theorem Along.of_forall (h : ∀ a ∈ as, ∀ s, good s a) : Along step good s as := by
  induction as generalizing s with
  | nil => exact True.intro
  | cons a as ih =>
    obtain ⟨ha, has⟩ := List.forall_mem_cons.mp h
    refine ⟨ha s, ?_⟩
    split
    · exact ih has
    · exact True.intro

theorem Along.of_forall_mem {p : α → Prop} (h : ∀ a ∈ as, p a) :
    Along step (fun _ a => p a) s as :=
  Along.of_forall fun a ha _ => h a ha

/-- Two conditions that agree in the states of a run agree along it. -/
theorem Along.congr {good' : σ → α → Prop} {I : σ → Prop}
    (hinv : ∀ s a s', step s a = some s' → I s → I s')
    (hiff : ∀ a ∈ as, ∀ s s', step s a = some s' → I s → (good s a ↔ good' s a))
    (hrun : exec step s as = some s') (hinit : I s) :
    Along step good s as ↔ Along step good' s as := by
  induction as generalizing s with
  | nil => exact Iff.rfl
  | cons a as ih =>
    obtain ⟨t, hs, has⟩ := exec_cons.mp hrun
    obtain ⟨ha, has'⟩ := List.forall_mem_cons.mp hiff
    rw [Along.cons hs, Along.cons hs, ha s t hs hinit, ih has' has (hinv s a t hs hinit)]

/-- Two conditions agree along a run if they agree wherever every step so far met the second. -/
theorem Along.congr_of_good {good' : σ → α → Prop} {I : σ → Prop}
    (hiff : ∀ s a s', step s a = some s' → I s → (good s a ↔ good' s a))
    (hkeep : ∀ s a s', step s a = some s' → I s → good' s a → I s')
    (hrun : exec step s as = some s') (hinit : I s) :
    Along step good s as ↔ Along step good' s as := by
  induction as generalizing s with
  | nil => exact Iff.rfl
  | cons a as ih =>
    obtain ⟨t, hs, has⟩ := exec_cons.mp hrun
    rw [Along.cons hs, Along.cons hs, hiff s a t hs hinit]
    exact and_congr_right fun hgood => ih has (hkeep s a t hs hinit hgood)

theorem Along.iff {good' : σ → α → Prop} (h : ∀ s a, good s a ↔ good' s a) :
    Along step good s as ↔ Along step good' s as := by
  have heq : good = good' := by
    funext s a
    exact propext (h s a)
  rw [heq]

/-- Two conditions that agree along a run hold along it together. -/
theorem Along.congr_along {good' : σ → α → Prop}
    (h : Along step (fun s a => good s a ↔ good' s a) s as) :
    Along step good s as ↔ Along step good' s as := by
  induction as generalizing s with
  | nil => exact Iff.rfl
  | cons a as ih =>
    obtain ⟨ha, hrest⟩ := h
    cases hs : step s a with
    | none => simp only [Along, hs, ha]
    | some t =>
      rw [hs] at hrest
      rw [Along.cons hs, Along.cons hs, ha, ih hrest]

/-- A run that is not good throughout has a first part that ends in an action that is not good. -/
theorem exists_of_not_along (hrun : exec step s as = some s') (h : ¬ Along step good s as) :
    ∃ pre a post t t', as = pre ++ a :: post ∧ exec step s pre = some t ∧ ¬ good t a ∧
      step t a = some t' ∧ exec step t' post = some s' := by
  induction as generalizing s with
  | nil => exact absurd True.intro h
  | cons a as ih =>
    obtain ⟨u, hs, has⟩ := exec_cons.mp hrun
    rw [Along.cons hs] at h
    by_cases hga : good s a
    · obtain ⟨pre, b, post, t, t', rfl, hpre, hb, hstep, hpost⟩ := ih has fun hgas => h ⟨hga, hgas⟩
      exact ⟨a :: pre, b, post, t, t', rfl, exec_cons.mpr ⟨u, hs, hpre⟩, hb, hstep, hpost⟩
    · exact ⟨[], a, as, s, u, rfl, rfl, hga, hs, has⟩

/-- The invariant rule: what every good step preserves holds after every run of good steps. -/
theorem exec_invariant {I : σ → Prop}
    (hstep : ∀ s a s', step s a = some s' → good s a → I s → I s')
    (hrun : exec step s as = some s') (hgood : Along step good s as) (hinit : I s) : I s' := by
  induction as generalizing s with
  | nil => cases hrun; exact hinit
  | cons a as ih =>
    obtain ⟨t, hs, has⟩ := exec_cons.mp hrun
    obtain ⟨hga, hgas⟩ := (Along.cons hs).mp hgood
    exact ih has hgas (hstep _ _ _ hs hga hinit)

/-- The invariant rule for a property that every step preserves. -/
theorem exec_preserves {I : σ → Prop} (hstep : ∀ s a s', step s a = some s' → I s → I s')
    (hrun : exec step s as = some s') (hinit : I s) : I s' :=
  exec_invariant (fun s a s' h (_ : True) => hstep s a s' h) hrun Along.trivial hinit

/-- The rule for a reflexive and transitive relation between earlier and later states. -/
theorem exec_relates {R : σ → σ → Prop} (hrefl : ∀ s, R s s)
    (htrans : ∀ s t u, R s t → R t u → R s u)
    (hstep : ∀ s a s', step s a = some s' → good s a → R s s')
    (hrun : exec step s as = some s') (hgood : Along step good s as) : R s s' :=
  exec_invariant (I := R s) (fun t a t' h hg hst => htrans _ _ _ hst (hstep t a t' h hg))
    hrun hgood (hrefl s)

/-- What the invariant says about the steps of a run holds along it. -/
theorem Along.of_invariant {good' : σ → α → Prop} {I : σ → Prop}
    (hstep : ∀ s a s', step s a = some s' → good s a → I s → I s' ∧ good' s a)
    (hrun : exec step s as = some s') (hgood : Along step good s as) (hinit : I s) :
    Along step good' s as := by
  induction as generalizing s with
  | nil => exact True.intro
  | cons a as ih =>
    obtain ⟨t, hs, has⟩ := exec_cons.mp hrun
    obtain ⟨hga, hgas⟩ := (Along.cons hs).mp hgood
    obtain ⟨ht, hga'⟩ := hstep s a t hs hga hinit
    exact (Along.cons hs).mpr ⟨hga', ih has hgas ht⟩

/-- At some action of the run `p` holds, in the state the action is taken in. -/
def Sometime (step : σ → α → Option σ) (p : σ → α → Prop) : σ → List α → Prop
  | _, [] => False
  | s, a :: as => p s a ∨ match step s a with
    | some s' => Sometime step p s' as
    | none => False

section
variable {p : σ → α → Prop}

theorem Sometime.cons (h : step s a = some s') :
    Sometime step p s (a :: as) ↔ p s a ∨ Sometime step p s' as := by
  simp [Sometime, h]

@[simp] theorem sometime_singleton : Sometime step p s [a] ↔ p s a := by
  rw [Sometime]
  cases step s a with
  | none => simp
  | some s' => simp [Sometime]

theorem Sometime.append (h : exec step s as = some s') :
    Sometime step p s (as ++ bs) ↔ Sometime step p s as ∨ Sometime step p s' bs := by
  induction as generalizing s with
  | nil =>
    cases h
    simp [Sometime]
  | cons a as ih =>
    obtain ⟨t, hs, has⟩ := exec_cons.mp h
    rw [List.cons_append, Sometime.cons hs, Sometime.cons hs, ih has, or_assoc]

/-- What holds at the end of a run held at its start, or came about at some action. -/
theorem exec_sometime {I : σ → Prop} (hstep : ∀ s a s', step s a = some s' → I s' → I s ∨ p s a)
    (hrun : exec step s as = some s') (hend : I s') : I s ∨ Sometime step p s as := by
  induction as generalizing s with
  | nil =>
    cases hrun
    exact .inl hend
  | cons a as ih =>
    obtain ⟨t, hs, has⟩ := exec_cons.mp hrun
    rw [Sometime.cons hs]
    rcases ih has with ht | hlater
    · rcases hstep s a t hs ht with hstart | hnow
      · exact .inl hstart
      · exact .inr (.inl hnow)
    · exact .inr (.inr hlater)

end

/-- A property holds in every state of a run exactly if every step is good, where a good step is one
that keeps the property; `J` is what else holds in the states of the run. -/
theorem forall_prefix_iff_along {I J : σ → Prop}
    (hinv : ∀ s a s', step s a = some s' → J s → J s')
    (hstep : ∀ s a s', step s a = some s' → J s → I s → (I s' ↔ good s a))
    (hrun : exec step s as = some s') (hJ : J s) (hI : I s) :
    (∀ pre post t, as = pre ++ post → exec step s pre = some t → I t) ↔ Along step good s as := by
  constructor
  · intro hall
    refine Classical.byContradiction fun hnot => ?_
    obtain ⟨pre, a, post, t, t', rfl, hpre, hbad, hs, -⟩ := exists_of_not_along hrun hnot
    have hJt : J t := exec_preserves hinv hpre hJ
    have hIt : I t := hall pre (a :: post) t rfl hpre
    have hpre' : exec step s (pre ++ [a]) = some t' :=
      exec_append.mpr ⟨t, hpre, by rw [exec_singleton, hs]⟩
    have hIt' : I t' := hall (pre ++ [a]) post t' (by simp) hpre'
    exact hbad ((hstep t a t' hs hJt hIt).mp hIt')
  · rintro hgood pre post t rfl hpre
    have hboth : J t ∧ I t :=
      exec_invariant (I := fun t => J t ∧ I t)
        (fun u a u' hs hg hJI => ⟨hinv u a u' hs hJI.1, (hstep u a u' hs hJI.1 hJI.2).mpr hg⟩)
        hpre ((Along.append hpre).mp hgood).1 ⟨hJ, hI⟩
    exact hboth.2

/-- The same for actions of which the last one may not be taken: that one is good. -/
theorem forall_prefix_iff_along_total {I J : σ → Prop}
    (hinv : ∀ s a s', step s a = some s' → J s → J s')
    (hstep : ∀ s a s', step s a = some s' → J s → I s → (I s' ↔ good s a))
    (hstop : ∀ s a, step s a = none → J s → I s → good s a) (hJ : J s) (hI : I s) :
    (∀ pre post t, as = pre ++ post → exec step s pre = some t → I t) ↔ Along step good s as := by
  induction as generalizing s with
  | nil =>
    refine ⟨fun _ => True.intro, ?_⟩
    rintro - pre post t hnil hpre
    obtain rfl : pre = [] := (List.append_eq_nil_iff.mp hnil.symm).1
    cases hpre
    exact hI
  | cons a as ih =>
    cases hs : step s a with
    | none =>
      refine ⟨fun _ => ⟨hstop s a hs hJ hI, by rw [hs]; exact True.intro⟩, ?_⟩
      rintro - pre post t hsplit hpre
      cases pre with
      | nil =>
        cases hpre
        exact hI
      | cons b pre =>
        obtain rfl : a = b := (List.cons.inj hsplit).1
        obtain ⟨t', ht', -⟩ := exec_cons.mp hpre
        rw [hs] at ht'
        cases ht'
    | some s' =>
      have hiff := hstep s a s' hs hJ hI
      rw [Along.cons hs]
      constructor
      · intro hall
        have hI' : I s' := hall [a] as s' rfl (by rw [exec_singleton, hs])
        refine ⟨hiff.mp hI', (ih (hinv s a s' hs hJ) hI').mp ?_⟩
        rintro pre post t rfl hpre
        exact hall (a :: pre) post t rfl (exec_cons.mpr ⟨s', hs, hpre⟩)
      · rintro ⟨hgood, hrest⟩ pre post t hsplit hpre
        have hI' := hiff.mpr hgood
        cases pre with
        | nil =>
          cases hpre
          exact hI
        | cons b pre =>
          obtain ⟨rfl, rfl⟩ := List.cons.inj hsplit
          obtain ⟨t', ht', hpre'⟩ := exec_cons.mp hpre
          obtain rfl : s' = t' := Option.some.inj (hs.symm.trans ht')
          exact (ih (hinv s a s' hs hJ) hI').mpr hrest pre post t rfl hpre'

/-! ## What a run gives off -/

section
variable {β : Type*} (step) (f : σ → α → List β)

/-- What the actions of a run give off, one after the other. -/
def yields : σ → List α → List β
  | _, [] => []
  | s, a :: as => f s a ++ match step s a with
    | some s' => yields s' as
    | none => []

variable {step f} {bs : List β}

theorem yields_cons (h : step s a = some s') :
    yields step f s (a :: as) = f s a ++ yields step f s' as := by
  simp [yields, h]

theorem yields_append (h : exec step s as = some s') {as' : List α} :
    yields step f s (as ++ as') = yields step f s as ++ yields step f s' as' := by
  induction as generalizing s with
  | nil =>
    cases h
    rfl
  | cons a as ih =>
    obtain ⟨t, hs, has⟩ := exec_cons.mp h
    rw [List.cons_append, yields_cons hs, yields_cons hs, ih has, List.append_assoc]

theorem yields_eq_nil (h : ∀ a ∈ as, ∀ s, f s a = []) : yields step f s as = [] := by
  induction as generalizing s with
  | nil => rfl
  | cons a as ih =>
    obtain ⟨ha, has⟩ := List.forall_mem_cons.mp h
    rw [yields, ha, List.nil_append]
    split
    · exact ih has
    · rfl

@[simp] theorem yields_singleton : yields step f s [a] = f s a := by
  cases h : step s a <;> simp [yields, h]

/-- The invariant rule for a property of the state and of what was given off. -/
theorem exec_invariant_yields {I : List β → σ → Prop}
    (hstep : ∀ bs s a s', step s a = some s' → good s a → I bs s → I (bs ++ f s a) s')
    (hrun : exec step s as = some s') (hgood : Along step good s as) (hinit : I bs s) :
    I (bs ++ yields step f s as) s' := by
  induction as generalizing s bs with
  | nil =>
    cases hrun
    rwa [yields, List.append_nil]
  | cons a as ih =>
    obtain ⟨t, hs, has⟩ := exec_cons.mp hrun
    obtain ⟨hga, hgas⟩ := (Along.cons hs).mp hgood
    rw [yields_cons hs, ← List.append_assoc]
    exact ih has hgas (hstep _ _ _ _ hs hga hinit)

/-- Two readings of the actions that agree where the invariant holds agree along the run. -/
theorem yields_congr {g : σ → α → List β} {I : σ → Prop}
    (hstep : ∀ s a s', step s a = some s' → good s a → I s → I s' ∧ f s a = g s a)
    (hrun : exec step s as = some s') (hgood : Along step good s as) (hinit : I s) :
    yields step f s as = yields step g s as := by
  induction as generalizing s with
  | nil => rfl
  | cons a as ih =>
    obtain ⟨t, hs, has⟩ := exec_cons.mp hrun
    obtain ⟨hga, hgas⟩ := (Along.cons hs).mp hgood
    obtain ⟨ht, heq⟩ := hstep s a t hs hga hinit
    rw [yields_cons hs, yields_cons hs, heq, ih has hgas ht]

end

/-- What a decidable test finds in the result of a run exists. -/
theorem exists_of_any {β : Type*} {o : Option β} {P : β → Prop} [DecidablePred P]
    (h : (o.any fun b => decide (P b)) = true) : ∃ b, o = some b ∧ P b := by
  cases o with
  | none => simp at h
  | some b => exact ⟨b, rfl, by simpa using h⟩

end GreaterWill
