import Mathlib.Data.Nat.Basic

/-!
# Strikes

Every key has a counter of strikes. The strike that makes it reach a limit is out, and the counter
starts anew after it, as it does when the key is cleared. So a key is out at every `limit`-th strike
since it was last cleared.
-/

namespace GreaterWill

inductive StrikeEvent (κ : Type*) where
  | strike (key : κ)
  | clear (key : κ)

section
variable {κ : Type*} [DecidableEq κ] (limit : Nat) (key : κ)

/-- The strikes of a key since it was last out or cleared, the latest event first. -/
def strikes : List (StrikeEvent κ) → Nat
  | [] => 0
  | .strike k :: earlier =>
    if k = key then
      if strikes earlier + 1 = limit then 0 else strikes earlier + 1
    else strikes earlier
  | .clear k :: earlier => if k = key then 0 else strikes earlier

/-- The strikes of a key since it was last cleared, the latest event first. -/
def strikesSinceClear : List (StrikeEvent κ) → Nat
  | [] => 0
  | .strike k :: earlier =>
    if k = key then strikesSinceClear earlier + 1 else strikesSinceClear earlier
  | .clear k :: earlier => if k = key then 0 else strikesSinceClear earlier

end

variable {κ : Type*} [DecidableEq κ] {limit : Nat} {key : κ} {events : List (StrikeEvent κ)}

theorem strikes_lt (hlimit : 0 < limit) : strikes limit key events < limit := by
  induction events with
  | nil => exact hlimit
  | cons event earlier ih =>
    cases event with
    | strike k =>
      simp only [strikes]
      split
      · split
        · exact hlimit
        · omega
      · exact ih
    | clear k =>
      simp only [strikes]
      split
      · exact hlimit
      · exact ih

/-- One more strike modulo the limit. -/
theorem succ_mod_eq {n : Nat} (hlimit : 0 < limit) :
    (n + 1) % limit = if n % limit + 1 = limit then 0 else n % limit + 1 := by
  have hlt : n % limit < limit := Nat.mod_lt n hlimit
  rw [← Nat.mod_add_mod]
  split
  · next hlast => rw [hlast, Nat.mod_self]
  · next hless => exact Nat.mod_eq_of_lt (by omega)

theorem strikes_eq_mod (hlimit : 0 < limit) :
    strikes limit key events = strikesSinceClear key events % limit := by
  induction events with
  | nil => exact (Nat.zero_mod limit).symm
  | cons event earlier ih =>
    cases event with
    | strike k =>
      simp only [strikes, strikesSinceClear]
      split
      · rw [succ_mod_eq hlimit, ih]
      · exact ih
    | clear k =>
      simp only [strikes, strikesSinceClear]
      split
      · exact (Nat.zero_mod limit).symm
      · exact ih

/-- A strike is out exactly if it is a `limit`-th one since the key was last cleared. -/
theorem out_iff (hlimit : 0 < limit) : strikes limit key events + 1 = limit ↔
    limit ∣ strikesSinceClear key events + 1 := by
  have hlt : strikesSinceClear key events % limit < limit := Nat.mod_lt _ hlimit
  rw [strikes_eq_mod hlimit, Nat.dvd_iff_mod_eq_zero, succ_mod_eq hlimit]
  split
  · next hlast => exact iff_of_true hlast rfl
  · next hless => exact iff_of_false hless (Nat.succ_ne_zero _)

end GreaterWill
