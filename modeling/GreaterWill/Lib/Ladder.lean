import Mathlib.Data.Nat.Init
import Mathlib.Order.Monotone.Basic

/-!
# Escalation by the age of a gap

A watcher looks at something from time to time and finds it in a gap or not. A gap that is old
enough is reminded of once, an older one once more, and a still older one is to be ended, unless the
end is held back. The watcher keeps the start of the gap and the number of reminders; an end may be
called for again and again.

`Ladder.Climb` says that a sequence of states follows the looks. Within a gap every reminder is
given at most once, the first one never after the second (`Climb.once`), and the reminders that were
given are those whose ages were seen: `Climb.first_given_iff`, `Climb.second_given_iff`.
-/

namespace GreaterWill

/-- The ages from which a gap is reminded of, reminded of again, and ended. -/
structure Ladder where
  first : Nat
  second : Nat
  last : Nat
  first_le : first ≤ second
  second_le : second ≤ last

namespace Ladder

inductive Rung where
  | first
  | second
  | last
  deriving DecidableEq

/-- What a look at a gap leads to. -/
def rung (l : Ladder) (age : Nat) (held : Bool) (given : Nat) : Option Rung :=
  if l.last < age ∧ held = false then some .last
  else if l.second < age ∧ given < 2 then some .second
  else if l.first < age ∧ given < 1 then some .first
  else none

/-- The reminders given after a look. -/
def givenAfter (given : Nat) : Option Rung → Nat
  | some .first => 1
  | some .second => 2
  | _ => given

/-- What a look finds: nothing new, no gap, or a gap that began at the given time. -/
inductive Finds (τ : Type*) where
  | nothing
  | noGap
  | gap (start : τ)

structure Look (τ : Type*) where
  finds : Finds τ
  now : τ
  held : Bool

/-- The start of the gap, and the number of reminders. -/
structure State (τ : Type*) where
  since : Option τ
  given : Nat

/-- The state after what a look finds; a gap that was there keeps its start. -/
def State.find {τ : Type*} (s : State τ) : Finds τ → State τ
  | .nothing => s
  | .noGap => ⟨none, 0⟩
  | .gap start => ⟨some (s.since.getD start), if s.since.isNone then 0 else s.given⟩

section
variable {τ : Type*} (l : Ladder) (age : τ → τ → Nat)

/-- What a look at the state leads to. -/
def State.rungAt (s : State τ) (look : Look τ) : Option Rung :=
  (s.find look.finds).since.bind fun start =>
    l.rung (age look.now start) look.held (s.find look.finds).given

/-- The state after a look, or without one. -/
def State.next (s : State τ) : Option (Look τ) → State τ
  | none => s
  | some look =>
    { since := (s.find look.finds).since
      given := givenAfter (s.find look.finds).given (s.rungAt l age look) }

variable [Preorder τ]

/-- The states `s` follow the looks before `n`, from a state without a gap. -/
structure Climb (s : Nat → State τ) (looks : Nat → Option (Look τ)) (n : Nat) : Prop where
  starts : (s 0).since = none
  steps : ∀ k < n, s (k + 1) = (s k).next l age (looks k)
  clock : ∀ j k, j ≤ k → ∀ look ∈ looks j, ∀ look' ∈ looks k, look.now ≤ look'.now
  ages : ∀ start, Monotone fun now => age now start

end

section
variable {τ : Type*} (l : Ladder) (age : τ → τ → Nat) (s : Nat → State τ)
  (looks : Nat → Option (Look τ))

/-- What the look `k` leads to. -/
def rungOf (k : Nat) : Option Rung := (looks k).bind ((s k).rungAt l age)

/-- The look `k` sees a gap of the given age. -/
def Sees (k age' : Nat) (held : Bool) : Prop :=
  ∃ look start, looks k = some look ∧ ((s k).find look.finds).since = some start ∧
    age look.now start = age' ∧ look.held = held

/-- The gap of the look `i` is there until the look `n`. -/
def Lasts (i n : Nat) : Prop := ∀ j, i ≤ j → j < n → (s (j + 1)).since.isSome = true

end

variable {l : Ladder} {age' given : Nat} {held : Bool}

theorem rung_eq_last : l.rung age' held given = some .last ↔ l.last < age' ∧ held = false := by
  rw [rung]
  split
  · next h => exact iff_of_true rfl h
  · next h =>
    refine iff_of_false ?_ h
    split
    · simp
    · split
      · simp
      · simp

theorem rung_eq_second : l.rung age' held given = some .second ↔
    (age' ≤ l.last ∨ held = true) ∧ l.second < age' ∧ given < 2 := by
  have hwaits : (age' ≤ l.last ∨ held = true) ↔ ¬ (l.last < age' ∧ held = false) := by
    rw [not_and_or, Nat.not_lt, Bool.not_eq_false]
  rw [rung, hwaits]
  split
  · next h => exact iff_of_false nofun fun hand => hand.1 h
  · next h =>
    split
    · next hsecond => exact iff_of_true rfl ⟨h, hsecond⟩
    · next hsecond =>
      refine iff_of_false ?_ fun hand => hsecond hand.2
      split
      · simp
      · simp

/-- The ages of the first reminder end where those of the second one begin. -/
theorem rung_eq_first : l.rung age' held given = some .first ↔
    l.first < age' ∧ age' ≤ l.second ∧ given = 0 := by
  have hlast := l.second_le
  rw [rung]
  split
  · next h => exact iff_of_false nofun fun hand => by omega
  · split
    · next h => exact iff_of_false nofun fun hand => by omega
    · next hsecond =>
      split
      · next hfirst => exact iff_of_true rfl ⟨hfirst.1, by omega, by omega⟩
      · next hfirst => exact iff_of_false nofun fun hand => by omega

theorem le_givenAfter : given ≤ givenAfter given (l.rung age' held given) := by
  cases h : l.rung age' held given with
  | none => exact Nat.le_refl _
  | some r =>
    cases r with
    | first =>
      rw [(rung_eq_first.mp h).2.2]
      exact Nat.zero_le _
    | second => exact Nat.le_of_lt (rung_eq_second.mp h).2.2
    | last => exact Nat.le_refl _

/-! ## A look -/

section
variable {τ : Type*} {age : τ → τ → Nat} {s : State τ} {look : Look τ} {r : Rung}

/-- A look that sees the gap that was there finds the state as it is. -/
theorem find_eq_self {f : Finds τ} (hbefore : s.since.isSome = true)
    (hafter : (s.find f).since.isSome = true) : s.find f = s := by
  obtain ⟨start, hstart⟩ := Option.isSome_iff_exists.mp hbefore
  cases f with
  | nothing => rfl
  | noGap => cases hafter
  | gap start' =>
    obtain ⟨since, given⟩ := s
    dsimp only at hstart
    subst hstart
    rfl

/-- Reminders of the gap found were given of the gap that was there. -/
theorem find_eq_self_of_given {f : Finds τ} (hafter : (s.find f).since.isSome = true)
    (hgiven : 0 < (s.find f).given) : s.since.isSome = true ∧ s.find f = s := by
  have hbefore : s.since.isSome = true := by
    cases f with
    | nothing => exact hafter
    | noGap => cases hafter
    | gap start =>
      cases hsince : s.since with
      | none =>
        rw [State.find, hsince] at hgiven
        exact absurd hgiven (Nat.lt_irrefl 0)
      | some start' => rfl
  exact ⟨hbefore, find_eq_self hbefore hafter⟩

theorem rungAt_eq_some : s.rungAt l age look = some r ↔
    ∃ start, (s.find look.finds).since = some start ∧
      l.rung (age look.now start) look.held (s.find look.finds).given = some r := by
  rw [State.rungAt, Option.bind_eq_some_iff]

/-- Within a gap the start is kept, and the reminders given do not get fewer. -/
theorem next_of_since {look : Option (Look τ)} (hbefore : s.since.isSome = true)
    (hafter : (s.next l age look).since.isSome = true) :
    (s.next l age look).since = s.since ∧ s.given ≤ (s.next l age look).given := by
  cases look with
  | none => exact ⟨rfl, Nat.le_refl _⟩
  | some look =>
    have hfind : s.find look.finds = s := find_eq_self hbefore hafter
    rw [State.next]
    dsimp only
    rw [State.rungAt, hfind]
    refine ⟨rfl, ?_⟩
    obtain ⟨start, hstart⟩ := Option.isSome_iff_exists.mp hbefore
    rw [hstart]
    exact le_givenAfter

end

/-! ## A sequence of looks -/

section
variable {τ : Type*} {age : τ → τ → Nat} {s : Nat → State τ} {looks : Nat → Option (Look τ)}
  {n i j k a b : Nat} {r r' : Rung}

theorem Lasts.mono (h : Lasts s i n) (hij : i ≤ j) : Lasts s j n :=
  fun k hjk hkn => h k (hij.trans hjk) hkn

theorem Lasts.take (h : Lasts s i n) (hjn : j ≤ n) : Lasts s i j :=
  fun k hik hkj => h k hik (Nat.lt_of_lt_of_le hkj hjn)

theorem Lasts.append (h : Lasts s i j) (h' : Lasts s j n) : Lasts s i n := by
  intro k hik hkn
  rcases Nat.lt_or_ge k j with hkj | hjk
  · exact h k hik hkj
  · exact h' k hjk hkn

theorem Lasts.since (h : Lasts s i n) (hin : i < n) : (s n).since.isSome = true := by
  obtain ⟨k, rfl⟩ : ∃ k, n = k + 1 := ⟨n - 1, by omega⟩
  exact h k (Nat.le_of_lt_succ hin) (Nat.lt_succ_self k)

theorem rungOf_eq_some : rungOf l age s looks k = some r ↔
    ∃ a held, Sees age s looks k a held ∧
      ∃ look, looks k = some look ∧
        l.rung a held ((s k).find look.finds).given = some r := by
  rw [rungOf, Option.bind_eq_some_iff]
  constructor
  · rintro ⟨look, hlook, hrung⟩
    obtain ⟨start, hstart, hrung⟩ := rungAt_eq_some.mp hrung
    exact ⟨_, _, ⟨look, start, hlook, hstart, rfl, rfl⟩, look, hlook, hrung⟩
  · rintro ⟨a, held, ⟨look, start, hlook, hstart, rfl, rfl⟩, look', hlook', hrung⟩
    cases hlook.symm.trans hlook'
    exact ⟨look, hlook, rungAt_eq_some.mpr ⟨start, hstart, hrung⟩⟩

/-- A look within a gap goes by the reminders given so far. -/
theorem rungOf_within (hsince : (s k).since.isSome = true) (hr : rungOf l age s looks k = some r) :
    ∃ a held, Sees age s looks k a held ∧ l.rung a held (s k).given = some r := by
  obtain ⟨a, held, hsees, look, hlook, hrung⟩ := rungOf_eq_some.mp hr
  refine ⟨a, held, hsees, ?_⟩
  obtain ⟨look', start, hlook', hstart, -, -⟩ := hsees
  cases hlook.symm.trans hlook'
  rwa [find_eq_self hsince (by rw [hstart]; rfl)] at hrung

variable [Preorder τ]

namespace Climb

theorem kept (h : Climb l age s looks n) (hij : i + 1 ≤ j) (hjn : j ≤ n)
    (hlasts : Lasts s i j) :
    (s j).since = (s (i + 1)).since ∧ (s (i + 1)).given ≤ (s j).given := by
  induction j, hij using Nat.le_induction with
  | base => exact ⟨rfl, Nat.le_refl _⟩
  | succ j hij ih =>
    obtain ⟨hsince, hgiven⟩ := ih (Nat.le_of_lt hjn) (hlasts.take (Nat.le_succ j))
    have hbefore : (s j).since.isSome = true := (hlasts.take (Nat.le_succ j)).since hij
    have hafter : (s (j + 1)).since.isSome = true :=
      hlasts j (Nat.le_of_succ_le hij) (Nat.lt_succ_self j)
    rw [h.steps j hjn] at hafter ⊢
    obtain ⟨hsame, hmore⟩ := next_of_since hbefore hafter
    exact ⟨hsame.trans hsince, hgiven.trans hmore⟩

theorem since_succ (h : Climb l age s looks n) (hi : i < n) {look : Look τ}
    (hlook : looks i = some look) : (s (i + 1)).since = ((s i).find look.finds).since := by
  rw [h.steps i hi, hlook]
  rfl

/-- A gap gets older. -/
theorem age_le (h : Climb l age s looks n) (hij : i < j) (hjn : j ≤ n) (hlasts : Lasts s i j)
    {held held' : Bool} (hi : Sees age s looks i a held) (hj : Sees age s looks j b held') :
    a ≤ b := by
  obtain ⟨look, start, hlook, hstart, rfl, -⟩ := hi
  obtain ⟨look', start', hlook', hstart', rfl, -⟩ := hj
  have hsince : (s j).since = some start := by
    rw [(h.kept hij hjn hlasts).1, h.since_succ (Nat.lt_of_lt_of_le hij hjn) hlook, hstart]
  have hfind : (s j).find look'.finds = s j :=
    find_eq_self (by rw [hsince]; rfl) (by rw [hstart']; rfl)
  obtain rfl : start = start' := by
    rw [hfind, hsince] at hstart'
    exact Option.some.inj hstart'
  exact h.ages start (h.clock i j (Nat.le_of_lt hij) look hlook look' hlook')

theorem given_succ (h : Climb l age s looks n) (hi : i < n)
    (hr : rungOf l age s looks i = some r) : ∃ g, (s (i + 1)).given = givenAfter g (some r) := by
  obtain ⟨look, hlook, hrung⟩ := Option.bind_eq_some_iff.mp hr
  rw [h.steps i hi, hlook, State.next, hrung]
  exact ⟨_, rfl⟩

/-- Within a gap each reminder is given once, and the first one before the second. -/
theorem once (h : Climb l age s looks n) (hij : i < j) (hjn : j ≤ n) (hlasts : Lasts s i j)
    (hi : rungOf l age s looks i = some r) (hj : rungOf l age s looks j = some r')
    (hr : r ≠ .last) (hr' : r' ≠ .last) : r = .first ∧ r' = .second := by
  obtain ⟨g, hg⟩ := h.given_succ (Nat.lt_of_lt_of_le hij hjn) hi
  have hgiven : (s (i + 1)).given ≤ (s j).given := (h.kept hij hjn hlasts).2
  obtain ⟨a, held, -, hrung⟩ := rungOf_within (hlasts.since hij) hj
  cases r with
  | last => exact absurd rfl hr
  | first =>
    cases r' with
    | last => exact absurd rfl hr'
    | first =>
      have hnone := (rung_eq_first.mp hrung).2.2
      rw [hg, hnone] at hgiven
      have hone : 1 ≤ 0 := hgiven
      exact absurd hone (by decide)
    | second => exact ⟨rfl, rfl⟩
  | second =>
    rw [hg] at hgiven
    have htwo : 2 ≤ (s j).given := hgiven
    cases r' with
    | last => exact absurd rfl hr'
    | first =>
      have hnone := (rung_eq_first.mp hrung).2.2
      omega
    | second =>
      have hless := (rung_eq_second.mp hrung).2.2
      omega

/-- What was given in a gap was given by a look at it. -/
theorem exists_of_given (h : Climb l age s looks n) (hkn : k ≤ n)
    (hsince : (s k).since.isSome = true) (hgiven : 0 < (s k).given) :
    ∃ i < k, Lasts s i k ∧ (rungOf l age s looks i = some .second ∨
      rungOf l age s looks i = some .first ∧ (s k).given = 1) := by
  induction k with
  | zero =>
    rw [h.starts] at hsince
    cases hsince
  | succ k ih =>
    have hlast : Lasts s k (k + 1) := fun j hkj hjk => by
      obtain rfl : j = k := Nat.le_antisymm (Nat.le_of_lt_succ hjk) hkj
      exact hsince
    have hearlier (hbefore : (s k).since.isSome = true) (hsame : (s (k + 1)).given = (s k).given) :
        ∃ i < k + 1, Lasts s i (k + 1) ∧ (rungOf l age s looks i = some .second ∨
          rungOf l age s looks i = some .first ∧ (s (k + 1)).given = 1) := by
      rw [hsame] at hgiven ⊢
      obtain ⟨i, hik, hlasts, hr⟩ := ih (Nat.le_of_lt hkn) hbefore hgiven
      exact ⟨i, Nat.lt_succ_of_lt hik, hlasts.append hlast, hr⟩
    cases hlook : looks k with
    | none =>
      have hstep : s (k + 1) = s k := by rw [h.steps k hkn, hlook]; rfl
      exact hearlier (by rw [← hstep]; exact hsince) (by rw [hstep])
    | some look =>
      have hrungs : rungOf l age s looks k = (s k).rungAt l age look := by rw [rungOf, hlook]; rfl
      have hnext : (s (k + 1)).given =
          givenAfter ((s k).find look.finds).given ((s k).rungAt l age look) := by
        rw [h.steps k hkn, hlook]
        rfl
      rw [h.since_succ hkn hlook] at hsince
      have hkept (hnothing : givenAfter ((s k).find look.finds).given ((s k).rungAt l age look) =
          ((s k).find look.finds).given) : ∃ i < k + 1, Lasts s i (k + 1) ∧
            (rungOf l age s looks i = some .second ∨
              rungOf l age s looks i = some .first ∧ (s (k + 1)).given = 1) := by
        rw [hnext, hnothing] at hgiven
        obtain ⟨hbefore, hfind⟩ := find_eq_self_of_given hsince hgiven
        exact hearlier hbefore (by rw [hnext, hnothing, hfind])
      cases hr : (s k).rungAt l age look with
      | none => exact hkept (by rw [hr]; rfl)
      | some r =>
        cases r with
        | last => exact hkept (by rw [hr]; rfl)
        | first =>
          exact ⟨k, Nat.lt_succ_self k, hlast, .inr ⟨hrungs.trans hr, by rw [hnext, hr]; rfl⟩⟩
        | second => exact ⟨k, Nat.lt_succ_self k, hlast, .inl (hrungs.trans hr)⟩

/-- The first reminder was given in a gap exactly if one of its ages was seen. -/
theorem first_given_iff (h : Climb l age s looks n) (hkn : k ≤ n) :
    (∃ i < k, Lasts s i k ∧ rungOf l age s looks i = some .first) ↔
      ∃ i < k, Lasts s i k ∧ ∃ a held, Sees age s looks i a held ∧ l.first < a ∧ a ≤ l.second := by
  constructor
  · rintro ⟨i, hik, hlasts, hr⟩
    obtain ⟨a, held, hsees, look, -, hrung⟩ := rungOf_eq_some.mp hr
    obtain ⟨hfirst, hsecond, -⟩ := rung_eq_first.mp hrung
    exact ⟨i, hik, hlasts, a, held, hsees, hfirst, hsecond⟩
  · rintro ⟨i, hik, hlasts, a, held, hsees, hfirst, hsecond⟩
    have hsees' := hsees
    obtain ⟨look, start, hlook, hstart, -, -⟩ := hsees'
    rcases Nat.eq_zero_or_pos ((s i).find look.finds).given with hnone | hgiven
    · refine ⟨i, hik, hlasts, rungOf_eq_some.mpr ⟨a, held, hsees, look, hlook, ?_⟩⟩
      exact rung_eq_first.mpr ⟨hfirst, hsecond, hnone⟩
    · obtain ⟨hbefore, hfind⟩ :=
        find_eq_self_of_given (by rw [hstart]; rfl) hgiven
      rw [hfind] at hgiven
      obtain ⟨j, hji, hlasts', hr⟩ :=
        h.exists_of_given ((Nat.le_of_lt hik).trans hkn) hbefore hgiven
      rcases hr with hr | ⟨hr, -⟩
      · -- the gap was too young for the second reminder
        obtain ⟨b, held', hseesj, look', -, hrung⟩ := rungOf_eq_some.mp hr
        have hle : b ≤ a := h.age_le hji ((Nat.le_of_lt hik).trans hkn) hlasts' hseesj hsees
        have hlt := (rung_eq_second.mp hrung).2.1
        omega
      · exact ⟨j, hji.trans hik, hlasts'.append hlasts, hr⟩

/-- The second one was given exactly if one of its ages was seen, or a later one with the end held
back. -/
theorem second_given_iff (h : Climb l age s looks n) (hkn : k ≤ n) :
    (∃ i < k, Lasts s i k ∧ rungOf l age s looks i = some .second) ↔
      ∃ i < k, Lasts s i k ∧ ∃ a held, Sees age s looks i a held ∧ l.second < a ∧
        (a ≤ l.last ∨ held = true) := by
  constructor
  · rintro ⟨i, hik, hlasts, hr⟩
    obtain ⟨a, held, hsees, look, -, hrung⟩ := rungOf_eq_some.mp hr
    obtain ⟨hlast, hsecond, -⟩ := rung_eq_second.mp hrung
    exact ⟨i, hik, hlasts, a, held, hsees, hsecond, hlast⟩
  · rintro ⟨i, hik, hlasts, a, held, hsees, hsecond, hlast⟩
    have hsees' := hsees
    obtain ⟨look, start, hlook, hstart, -, -⟩ := hsees'
    rcases Nat.lt_or_ge ((s i).find look.finds).given 2 with hless | htwo
    · refine ⟨i, hik, hlasts, rungOf_eq_some.mpr ⟨a, held, hsees, look, hlook, ?_⟩⟩
      exact rung_eq_second.mpr ⟨hlast, hsecond, hless⟩
    · obtain ⟨hbefore, hfind⟩ :=
        find_eq_self_of_given (by rw [hstart]; rfl) (Nat.lt_of_lt_of_le (by decide) htwo)
      rw [hfind] at htwo
      obtain ⟨j, hji, hlasts', hr⟩ :=
        h.exists_of_given ((Nat.le_of_lt hik).trans hkn) hbefore
          (Nat.lt_of_lt_of_le (by decide) htwo)
      rcases hr with hr | ⟨-, hone⟩
      · exact ⟨j, hji.trans hik, hlasts'.append hlasts, hr⟩
      · omega

/-- Both were given in their order exactly if their ages were seen. -/
theorem both_given_iff (h : Climb l age s looks n) (hkn : k ≤ n) :
    (∃ i j, i < j ∧ j < k ∧ Lasts s i k ∧ rungOf l age s looks i = some .first ∧
        rungOf l age s looks j = some .second) ↔
      (∃ i < k, Lasts s i k ∧ ∃ a held, Sees age s looks i a held ∧ l.first < a ∧ a ≤ l.second) ∧
      ∃ j < k, Lasts s j k ∧ ∃ a held, Sees age s looks j a held ∧ l.second < a ∧
        (a ≤ l.last ∨ held = true) := by
  rw [← h.first_given_iff hkn, ← h.second_given_iff hkn]
  constructor
  · rintro ⟨i, j, hij, hjk, hlasts, hi, hj⟩
    exact ⟨⟨i, hij.trans hjk, hlasts, hi⟩, j, hjk, hlasts.mono (Nat.le_of_lt hij), hj⟩
  · rintro ⟨⟨i, hik, hlasts, hi⟩, j, hjk, hlasts', hj⟩
    refine ⟨i, j, ?_, hjk, hlasts, hi, hj⟩
    rcases Nat.lt_trichotomy i j with hij | rfl | hji
    · exact hij
    · cases hi.symm.trans hj
    · have honce := h.once hji ((Nat.le_of_lt hik).trans hkn) (hlasts'.take (Nat.le_of_lt hik)) hj
        hi nofun nofun
      cases honce.1

end Climb

end

end Ladder

end GreaterWill
