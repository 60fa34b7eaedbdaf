import Mathlib.Algebra.GroupWithZero.Nat
import Mathlib.Data.List.Basic

/-!
# Texts by their bytes

The length of a text in bytes, and the slice `&s[..n]` of its first `n` bytes, which exists where
the byte `n` is not within a character (`takeBytes_eq_none_iff`).
-/

namespace GreaterWill.Text

/-- `str::len`. -/
def byteLen (s : List Char) : Nat := (s.map Char.utf8Size).sum

/-- `&s[..n]`; `none` where the slice panics. -/
def takeBytes : Nat → List Char → Option (List Char)
  | 0, _ => some []
  | _ + 1, [] => none
  | n + 1, c :: s =>
    if c.utf8Size ≤ n + 1 then (takeBytes (n + 1 - c.utf8Size) s).map (c :: ·) else none

/-- A character of the text begins before the byte `n` and ends after it. -/
def Straddles (n : Nat) (s : List Char) : Prop :=
  ∃ before c after, s = before ++ c :: after ∧ byteLen before < n ∧
    n < byteLen before + c.utf8Size

variable {n : Nat} {s t : List Char} {c : Char}

@[simp] theorem byteLen_nil : byteLen [] = 0 := rfl

@[simp] theorem byteLen_cons : byteLen (c :: s) = c.utf8Size + byteLen s := rfl

@[simp] theorem byteLen_append : byteLen (s ++ t) = byteLen s + byteLen t := by
  rw [byteLen, List.map_append, List.sum_append_nat]
  rfl

theorem byteLen_replicate : byteLen (List.replicate n c) = n * c.utf8Size := by
  simp [byteLen]

theorem utf8ByteSize_eq (s : String) : s.utf8ByteSize = byteLen s.toList := by
  have hlist : ∀ l : List Char, (String.ofList l).utf8ByteSize = byteLen l := by
    intro l
    induction l with
    | nil => rfl
    | cons c l ih =>
      have hone : (String.ofList [c]).utf8ByteSize = c.utf8Size := by
        rw [← String.singleton_eq_ofList, String.utf8ByteSize_singleton]
      rw [← List.singleton_append, String.ofList_append, String.utf8ByteSize_append, ih, hone]
      rfl
  rw [← hlist, String.ofList_toList]

theorem byteLen_pos (h : s ≠ []) : 0 < byteLen s := by
  cases s with
  | nil => exact absurd rfl h
  | cons c s =>
    have hc := c.utf8Size_pos
    rw [byteLen_cons]
    omega

/-- Of two beginnings of a text, the one with fewer bytes begins the other. -/
theorem prefix_of_byteLen_le {full cut t : List Char} (hcut : cut <+: full) (ht : t <+: full)
    (hle : byteLen t ≤ byteLen cut) : t <+: cut := by
  rcases List.prefix_or_prefix_of_prefix ht hcut with hbegins | ⟨r, rfl⟩
  · exact hbegins
  · rw [byteLen_append] at hle
    have hr : r = [] := by
      by_contra hne
      have hpos := byteLen_pos hne
      omega
    exact ⟨[], by rw [hr, List.append_nil, List.append_nil]⟩

theorem takeBytes_eq_some : takeBytes n s = some t ↔ t <+: s ∧ byteLen t = n := by
  induction s generalizing n t with
  | nil =>
    cases n with
    | zero =>
      simp only [takeBytes, Option.some.injEq, List.prefix_nil]
      constructor
      · rintro rfl
        exact ⟨rfl, rfl⟩
      · rintro ⟨rfl, -⟩
        rfl
    | succ n =>
      simp only [takeBytes, List.prefix_nil]
      constructor
      · intro h
        cases h
      · rintro ⟨rfl, h⟩
        cases h
  | cons c s ih =>
    cases n with
    | zero =>
      simp only [takeBytes, Option.some.injEq]
      constructor
      · rintro rfl
        exact ⟨List.nil_prefix, rfl⟩
      · rintro ⟨-, hlen⟩
        by_contra hne
        have hpos := byteLen_pos (Ne.symm hne)
        omega
    | succ n =>
      have hc := c.utf8Size_pos
      rw [takeBytes]
      constructor
      · intro h
        split at h
        · next hle =>
          obtain ⟨t', ht', rfl⟩ := Option.map_eq_some_iff.mp h
          obtain ⟨hbegins, hlen⟩ := ih.mp ht'
          refine ⟨List.cons_prefix_cons.mpr ⟨rfl, hbegins⟩, ?_⟩
          rw [byteLen_cons]
          omega
        · cases h
      · rintro ⟨hbegins, hlen⟩
        cases t with
        | nil => cases hlen
        | cons c' t =>
          obtain ⟨rfl, htail⟩ := List.cons_prefix_cons.mp hbegins
          rw [byteLen_cons] at hlen
          have htake : takeBytes (n + 1 - c'.utf8Size) s = some t :=
            ih.mpr ⟨htail, by omega⟩
          rw [if_pos (by omega), htake]
          rfl

theorem not_straddles_nil : ¬ Straddles n [] := by
  rintro ⟨before, c, after, heq, -, -⟩
  cases before with
  | nil => cases heq
  | cons c' before => cases heq

theorem not_straddles_zero : ¬ Straddles 0 s := by
  rintro ⟨before, c, after, -, hlt, -⟩
  cases hlt

theorem Straddles.lt_byteLen (h : Straddles n s) : n < byteLen s := by
  obtain ⟨before, c, after, rfl, -, hgt⟩ := h
  rw [byteLen_append, byteLen_cons]
  omega

/-- It is the first character or one of the others. -/
theorem straddles_cons : Straddles n (c :: s) ↔
    (0 < n ∧ n < c.utf8Size) ∨ (c.utf8Size ≤ n ∧ Straddles (n - c.utf8Size) s) := by
  constructor
  · rintro ⟨before, c', after, heq, hlt, hgt⟩
    cases before with
    | nil =>
      cases heq
      rw [byteLen_nil] at hlt hgt
      exact .inl ⟨hlt, by omega⟩
    | cons c'' before =>
      cases heq
      rw [byteLen_cons] at hlt hgt
      exact .inr ⟨by omega, before, c', after, rfl, by omega, by omega⟩
  · rintro (⟨hpos, hlt⟩ | ⟨hle, before, c', after, rfl, hlt, hgt⟩)
    · exact ⟨[], c, s, rfl, hpos, by rw [byteLen_nil]; omega⟩
    · refine ⟨c :: before, c', after, rfl, ?_, ?_⟩
      · rw [byteLen_cons]
        omega
      · rw [byteLen_cons]
        omega

theorem takeBytes_eq_none_iff (h : n ≤ byteLen s) : takeBytes n s = none ↔ Straddles n s := by
  induction s generalizing n with
  | nil =>
    cases Nat.le_zero.mp h
    simp [takeBytes, not_straddles_nil]
  | cons c s ih =>
    rw [byteLen_cons] at h
    have hc := c.utf8Size_pos
    rw [straddles_cons]
    cases n with
    | zero => simp [takeBytes, not_straddles_zero]
    | succ n =>
      rw [takeBytes]
      split
      · next hle =>
        rw [Option.map_eq_none_iff, ih (by omega)]
        constructor
        · exact fun hs => .inr ⟨hle, hs⟩
        · rintro (⟨-, hlt⟩ | ⟨-, hs⟩)
          · omega
          · exact hs
      · next hgt => simp only [true_iff]; exact .inl ⟨by omega, by omega⟩

/-- Characters of one byte are not cut. -/
theorem not_straddles_of_ascii (h : ∀ c ∈ s, c.utf8Size = 1) : ¬ Straddles n s := by
  rintro ⟨before, c, after, rfl, hlt, hgt⟩
  rw [h c (List.mem_append_right before List.mem_cons_self)] at hgt
  omega

theorem straddles_append_left (h : ∀ c ∈ t, c.utf8Size = 1) :
    Straddles n (t ++ s) ↔ byteLen t ≤ n ∧ Straddles (n - byteLen t) s := by
  induction t generalizing n with
  | nil => simp
  | cons c t ih =>
    obtain ⟨hc, ht⟩ := List.forall_mem_cons.mp h
    rw [List.cons_append, straddles_cons, ih ht, byteLen_cons, hc, Nat.sub_sub]
    constructor
    · rintro (⟨hpos, hlt⟩ | ⟨hle, hle', hs⟩)
      · omega
      · exact ⟨by omega, hs⟩
    · rintro ⟨hle, hs⟩
      exact .inr ⟨by omega, by omega, hs⟩

theorem straddles_append_right (h : ∀ c ∈ t, c.utf8Size = 1) :
    Straddles n (s ++ t) ↔ Straddles n s := by
  induction s generalizing n with
  | nil => simp [not_straddles_of_ascii h, not_straddles_nil]
  | cons c s ih => rw [List.cons_append, straddles_cons, straddles_cons, ih]

end GreaterWill.Text
