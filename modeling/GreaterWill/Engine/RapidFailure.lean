import GreaterWill.Engine.RetryCoordinator

/-!
# Rapid failures of a group

Three failures within 30 seconds are to lengthen the backoff until the failures spread out again.
`record_failure` compares the third failure and every later one with the failure before it alone,
and what it has found once is kept for good. This is the window of 30 seconds as long as a failure
that follows fast on another one follows fast on two, and all the later ones do.
-/

namespace GreaterWill

namespace RetryState

/-- 30 seconds. -/
def rapidWindow : Nat := 30 * 1000000000

section
variable (classes : Nat → ErrorClass) (times : Nat → Nat)

/-- The state of a group after its first failures, as `should_retry` records them. -/
def afterFailures : Nat → RetryState
  | 0 => { errorClass := classes 0 }
  | k + 1 => { afterFailures k with errorClass := classes k }.recordFailure (times k)

/-- Three failures, the failure `k` included, lie within 30 seconds. -/
def ThreeWithin (k : Nat) : Prop :=
  ∃ i j, i < j ∧ j < k ∧ times k - times i < rapidWindow

/-- What the state is to say after the failure `k`. -/
structure RapidExact (k : Nat) : Prop where
  flag : (afterFailures classes times (k + 1)).isRapidFailure = true ↔ ThreeWithin times k
  backoff : ¬ ThreeWithin times k →
    (afterFailures classes times (k + 1)).nextBackoff = (classes k).backoffForAttempt (k + 1)

/-- Once the third failure or a later one follows fast on the one before it, it and all the failures
after it follow fast on the one two before. -/
def StaysRapid (n : Nat) : Prop :=
  ∀ j k, 2 ≤ j → j ≤ k → k < n → times j - times (j - 1) < rapidWindow →
    times k - times (k - 2) < rapidWindow

end

variable {classes : Nat → ErrorClass} {times : Nat → Nat} {n k : Nat}

@[simp] theorem afterFailures_attempts : (afterFailures classes times n).attempts = n := by
  induction n with
  | zero => rfl
  | succ k ih => exact congrArg (· + 1) ih

@[simp] theorem afterFailures_errorClass :
    (afterFailures classes times (k + 1)).errorClass = classes k := rfl

@[simp] theorem afterFailures_lastFailure :
    (afterFailures classes times (k + 1)).lastFailure = some (times k) := rfl

/-- A failure is rapid by the one before it; the first two are not. -/
theorem afterFailures_rapid_succ : (afterFailures classes times (k + 1)).isRapidFailure = true ↔
    (afterFailures classes times k).isRapidFailure = true ∨
      2 ≤ k ∧ times k - times (k - 1) < rapidWindow := by
  have hrecord : (afterFailures classes times (k + 1)).isRapidFailure =
      ((afterFailures classes times k).isRapidFailure ||
        (afterFailures classes times k).lastFailure.any fun previous =>
          decide (times k - previous < rapidWindow) &&
            decide (3 ≤ (afterFailures classes times k).attempts + 1)) := rfl
  rw [hrecord, Bool.or_eq_true]
  refine or_congr_right ?_
  cases k with
  | zero => simp [afterFailures]
  | succ k =>
    rw [afterFailures_lastFailure, afterFailures_attempts, Option.any_some, Bool.and_eq_true,
      decide_eq_true_eq, decide_eq_true_eq, and_comm, Nat.add_sub_cancel]
    exact and_congr_left fun _ => by omega

/-- The flag remembers every failure that followed fast on the one before it. -/
theorem afterFailures_rapid_iff : (afterFailures classes times n).isRapidFailure = true ↔
    ∃ j < n, 2 ≤ j ∧ times j - times (j - 1) < rapidWindow := by
  induction n with
  | zero => simp [afterFailures]
  | succ k ih =>
    rw [afterFailures_rapid_succ, ih]
    constructor
    · rintro (⟨j, hj, hfast⟩ | hfast)
      · exact ⟨j, Nat.lt_succ_of_lt hj, hfast⟩
      · exact ⟨k, Nat.lt_succ_self k, hfast⟩
    · rintro ⟨j, hj, hfast⟩
      rcases Nat.lt_succ_iff_lt_or_eq.mp hj with hlt | rfl
      · exact .inl ⟨j, hlt, hfast⟩
      · exact .inr hfast

/-- The last three failures are the closest ones. -/
theorem threeWithin_iff (hclock : ∀ i j, i ≤ j → j < n → times i ≤ times j) (hk : k < n) :
    ThreeWithin times k ↔ 2 ≤ k ∧ times k - times (k - 2) < rapidWindow := by
  constructor
  · rintro ⟨i, j, hij, hjk, hwithin⟩
    have hle : times i ≤ times (k - 2) := hclock i (k - 2) (by omega) (by omega)
    exact ⟨by omega, by omega⟩
  · rintro ⟨htwo, hwithin⟩
    exact ⟨k - 2, k - 1, by omega, by omega, hwithin⟩

/-- A state that is not rapid waits as long as its class. -/
theorem nextBackoff_of_not_rapid
    (h : ¬ (afterFailures classes times (k + 1)).isRapidFailure = true) :
    (afterFailures classes times (k + 1)).nextBackoff =
      (classes k).backoffForAttempt (k + 1) := by
  rw [nextBackoff, if_neg h, afterFailures_errorClass, afterFailures_attempts]

/-- The rapid failures of a sequence are found exactly if they stay rapid. -/
theorem rapid_exact_iff (classes : Nat → ErrorClass) (times : Nat → Nat) (n : Nat)
    (hclock : ∀ i j, i ≤ j → j < n → times i ≤ times j) :
    (∀ k < n, RapidExact classes times k) ↔ StaysRapid times n := by
  constructor
  · intro hexact j k htwo hjk hk hfast
    have hflag : (afterFailures classes times (k + 1)).isRapidFailure = true :=
      afterFailures_rapid_iff.mpr ⟨j, Nat.lt_succ_of_le hjk, htwo, hfast⟩
    exact ((threeWithin_iff hclock hk).mp ((hexact k hk).flag.mp hflag)).2
  · intro hstays k hk
    have hflag : (afterFailures classes times (k + 1)).isRapidFailure = true ↔
        ThreeWithin times k := by
      rw [afterFailures_rapid_iff, threeWithin_iff hclock hk]
      constructor
      · rintro ⟨j, hj, htwo, hfast⟩
        have hjk : j ≤ k := Nat.le_of_lt_succ hj
        exact ⟨Nat.le_trans htwo hjk, hstays j k htwo hjk hk hfast⟩
      · rintro ⟨htwo, hwithin⟩
        have hle : times (k - 2) ≤ times (k - 1) := hclock _ _ (by omega) (by omega)
        exact ⟨k, Nat.lt_succ_self k, htwo, by omega⟩
    exact ⟨hflag, fun hnot => nextBackoff_of_not_rapid fun h => hnot (hflag.mp h)⟩

/-- Failures that come in every 10 seconds. -/
theorem steady_failures_rapid :
    (∀ k < 5, RapidExact (fun _ => .apiOverload) (fun k => 10000000000 * k) k) ↔
      StaysRapid (fun k => 10000000000 * k) 5 :=
  rapid_exact_iff _ _ 5 fun _ _ hij _ => Nat.mul_le_mul_left _ hij

/-- A slow failure and then a fast one count as rapid, and failures that spread out again go on
counting as rapid. -/
theorem two_failures_count_as_rapid :
    (¬ ∀ (classes : Nat → ErrorClass) (times : Nat → Nat) (n : Nat),
      (∀ i j, i ≤ j → j < n → times i ≤ times j) → ∀ k < n,
        ((afterFailures classes times (k + 1)).isRapidFailure = true ↔ ThreeWithin times k)) ∧
    ¬ ∀ (classes : Nat → ErrorClass) (times : Nat → Nat) (n : Nat),
      (∀ i j, i ≤ j → j < n → times i ≤ times j) → ∀ k < n, ¬ ThreeWithin times k →
        (afterFailures classes times (k + 1)).nextBackoff =
          (classes k).backoffForAttempt (k + 1) := by
  constructor
  · intro hclaim
    let times := fun k => [0, 100000000000, 110000000000].getD k 0
    have hsorted : ∀ j < 3, ∀ i < j + 1, times i ≤ times j := by decide
    have hclock : ∀ i j, i ≤ j → j < 3 → times i ≤ times j := fun i j hij hj =>
      hsorted j hj i (Nat.lt_succ_of_le hij)
    have hthree := (hclaim (fun _ => .crash) times 3 hclock 2 (by decide)).mp (by decide)
    exact absurd ((threeWithin_iff hclock (by decide)).mp hthree) (by decide)
  · intro hclaim
    let times := fun k => [0, 1000000000, 2000000000, 1000000000000].getD k 0
    have hsorted : ∀ j < 4, ∀ i < j + 1, times i ≤ times j := by decide
    have hclock : ∀ i j, i ≤ j → j < 4 → times i ≤ times j := fun i j hij hj =>
      hsorted j hj i (Nat.lt_succ_of_le hij)
    have hnormal := hclaim (fun _ => .apiOverload) times 4 hclock 3 (by decide)
      fun hthree => absurd ((threeWithin_iff hclock (by decide)).mp hthree) (by decide)
    exact absurd hnormal (by decide)

end RetryState

end GreaterWill
