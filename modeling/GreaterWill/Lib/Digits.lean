import GreaterWill.Lib.TextLemmas

/-!
# Decimal numerals

The decimal numeral of a number is parsed to that number again.
-/

namespace GreaterWill.Text

variable {n : Nat} {c : Char} {s : List Char}

theorem isDigit_of_mem_repr (h : c ∈ n.repr.toList) : c.isDigit = true := by
  rw [Nat.toList_repr] at h
  exact Nat.isDigit_of_mem_toDigits (by decide) (by decide) h

theorem repr_toList_ne_nil (n : Nat) : n.repr.toList ≠ [] := by
  rw [Nat.toList_repr]
  exact Nat.toDigits_ne_nil

theorem isWhitespace_of_isDigit (h : c.isDigit = true) : isWhitespace c = false := by
  rw [Char.isDigit, Bool.and_eq_true, decide_eq_true_iff, decide_eq_true_iff] at h
  have hlow : 48 ≤ c.toNat := UInt32.le_iff_toNat_le.mp h.1
  have hhigh : c.toNat ≤ 57 := UInt32.le_iff_toNat_le.mp h.2
  simp only [isWhitespace, Bool.or_eq_false_iff, Bool.and_eq_false_iff, beq_eq_false_iff_ne,
    decide_eq_false_iff_not]
  omega

/-- A character that is no digit does not stand in a numeral. -/
theorem notMem_repr (h : c.isDigit = false) (n : Nat) : c ∉ n.repr.toList := by
  intro hmem
  rw [isDigit_of_mem_repr hmem] at h
  cases h

/-- Digits alone are read by their places. -/
theorem parseDigits_of_digits (hne : s ≠ []) (h : ∀ c ∈ s, c.isDigit = true) :
    parseDigits s = some (Nat.ofDigitChars 10 s 0) := by
  have hplus : (stripPrefix ['+'] s).getD s = s := by
    cases s with
    | nil => rfl
    | cons c s =>
      have hc : ('+' == c) = false := by
        rw [beq_eq_false_iff_ne]
        rintro rfl
        exact absurd (h '+' List.mem_cons_self) (by decide)
      rw [stripPrefix, List.isPrefixOf?, hc]
      rfl
  have hall : s.all (·.isDigit) = true := List.all_eq_true.mpr h
  have hempty : s.isEmpty = false := List.isEmpty_eq_false_iff.mpr hne
  have hfold : s.foldl (fun n c => n * 10 + (c.toNat - '0'.toNat)) 0 =
      Nat.ofDigitChars 10 s 0 := by
    rw [Nat.ofDigitChars_eq_foldl]
    congr 1
    funext n c
    rw [Nat.mul_comm]
  rw [parseDigits, hplus, hall, hempty, hfold]
  rfl

/-- What is read as a number is digits, after an optional plus sign. -/
theorem digit_or_plus_of_parseDigits {n : Nat} (h : parseDigits s = some n) :
    ∀ c ∈ s, c.isDigit = true ∨ c = '+' := by
  rw [parseDigits] at h
  split at h
  · cases h
  · next hdigits =>
    have hall : ((stripPrefix ['+'] s).getD s).all (·.isDigit) = true := by
      simp only [Bool.or_eq_true, not_or, Bool.not_eq_true, Bool.not_eq_false'] at hdigits
      exact hdigits.2
    rw [List.all_eq_true] at hall
    cases hplus : stripPrefix ['+'] s with
    | none =>
      rw [hplus] at hall
      exact fun c hc => .inl (hall c hc)
    | some t =>
      rw [hplus] at hall
      rw [stripPrefix_eq_some.mp hplus]
      intro c hc
      rcases List.mem_cons.mp hc with rfl | hc
      · exact .inr rfl
      · exact .inl (hall c hc)

theorem parseDigits_repr (n : Nat) : parseDigits n.repr.toList = some n := by
  rw [parseDigits_of_digits (repr_toList_ne_nil n) fun c => isDigit_of_mem_repr,
    Nat.toList_repr, Nat.ofDigitChars_toDigits (by decide) (by decide)]

theorem repr_inj {m n : Nat} : m.repr = n.repr ↔ m = n := by
  constructor
  · intro h
    have hparse := parseDigits_repr m
    rw [h, parseDigits_repr n] at hparse
    exact (Option.some.inj hparse).symm
  · rintro rfl
    rfl

theorem parseU32_repr (n : UInt32) : parseU32 n.toNat.repr.toList = some n := by
  rw [parseU32, parseDigits_repr, Option.filter_some, if_pos (decide_eq_true n.toNat_lt)]
  exact congrArg some (UInt32.ofNat_toNat)

theorem parseU64_repr (n : UInt64) : parseU64 n.toNat.repr.toList = some n := by
  rw [parseU64, parseDigits_repr, Option.filter_some, if_pos (decide_eq_true n.toNat_lt)]
  exact congrArg some (UInt64.ofNat_toNat)

end GreaterWill.Text
