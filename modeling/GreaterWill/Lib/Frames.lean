import Mathlib.Data.List.Forall2
import Mathlib.Algebra.Group.Nat.Defs

/-!
# Frames on a byte stream

Big-endian numbers of a fixed number of bytes (`beBytes`, `ofBeBytes`), and readers that take one
message after the other from the front of a stream. A reader makes progress: what it leaves is
shorter than what it was given, so reading until the first error ends (`Reader.readAll`).

A list `f` is a *frame* of a message for a reader if the reader takes exactly `f` off the front of
every stream that starts with it, and fails on every proper beginning of it. A stream of frames is
read back message by message (`Reader.readAll_flatten`), and a stream that was cut off gives the
messages that arrived whole (`Reader.readAll_take`).
-/

namespace GreaterWill

/-! ## Big-endian numbers -/

/-- The last `w` base 256 digits of `n`, most significant first. -/
def beBytes : Nat → Nat → List UInt8
  | 0, _ => []
  | w + 1, n => beBytes w (n / 256) ++ [UInt8.ofNat n]

/-- The number with the given base 256 digits, most significant first. -/
def ofBeBytes (bs : List UInt8) : Nat := bs.foldl (fun n b => n * 256 + b.toNat) 0

@[simp] theorem length_beBytes (w n : Nat) : (beBytes w n).length = w := by
  induction w generalizing n with
  | zero => rfl
  | succ w ih => simp [beBytes, ih]

theorem ofBeBytes_concat (bs : List UInt8) (b : UInt8) :
    ofBeBytes (bs ++ [b]) = ofBeBytes bs * 256 + b.toNat := by
  simp [ofBeBytes]

theorem ofBeBytes_beBytes {w n : Nat} (h : n < 256 ^ w) : ofBeBytes (beBytes w n) = n := by
  induction w generalizing n with
  | zero =>
    have : n = 0 := by simpa using h
    subst this
    rfl
  | succ w ih =>
    have hdiv : n / 256 < 256 ^ w := Nat.div_lt_of_lt_mul (by rwa [Nat.pow_succ'] at h)
    rw [beBytes, ofBeBytes_concat, ih hdiv, UInt8.toNat_ofNat']
    omega

/-! ## Readers -/

/-- A reader of messages `α` from a stream of `β`; `ε` are the ways it fails. -/
structure Reader (β α ε : Type) where
  read : List β → Except ε (α × List β)
  progress : ∀ {s m rest}, read s = .ok (m, rest) → rest.length < s.length

namespace Reader
variable {β α ε : Type} (r : Reader β α ε)

/-- Read until the first error: the messages, what was left when the last read started, and its
error. -/
def readAll (s : List β) : List α × List β × ε :=
  match _h : r.read s with
  | .error e => ([], s, e)
  | .ok (m, rest) =>
    let out := readAll rest
    (m :: out.1, out.2)
termination_by s.length
decreasing_by exact r.progress _h

variable {r} {s rest f : List β} {m : α} {e : ε}

theorem readAll_of_error (h : r.read s = .error e) : r.readAll s = ([], s, e) := by
  rw [readAll]
  split
  · next e' h' => rw [h] at h'; cases h'; rfl
  · next h' => rw [h] at h'; cases h'

theorem readAll_of_ok (h : r.read s = .ok (m, rest)) :
    r.readAll s = (m :: (r.readAll rest).1, (r.readAll rest).2) := by
  rw [readAll]
  split
  · next h' => rw [h] at h'; cases h'
  · next h' => rw [h] at h'; cases h'; rfl

variable (r) (e) in
/-- `f` is a frame of `m`: whole it is read as `m`, cut short it fails with `e`. -/
structure IsFrame (m : α) (f : List β) : Prop where
  read_append : ∀ rest, r.read (f ++ rest) = .ok (m, rest)
  read_take : ∀ k < f.length, r.read (f.take k) = .error e

/-- A stream cut off after `k` elements gives the messages whose frames arrived whole, and then
the error of a frame that was cut short. -/
theorem readAll_take {ms : List α} {fs : List (List β)} (hnil : r.read [] = .error e)
    (h : List.Forall₂ (r.IsFrame e) ms fs) (k : Nat) :
    ∃ j left, r.readAll (fs.flatten.take k) = (ms.take j, left, e) := by
  induction h generalizing k with
  | nil => exact ⟨0, [], by simpa using readAll_of_error hnil⟩
  | @cons m f ms fs hf _ ih =>
    rcases Nat.lt_or_ge k f.length with hk | hk
    · -- the cut is inside the first frame
      have htake : (f :: fs).flatten.take k = f.take k := by
        rw [List.flatten_cons, List.take_append_of_le_length (Nat.le_of_lt hk)]
      exact ⟨0, f.take k, by rw [htake, readAll_of_error (hf.read_take k hk), List.take_zero]⟩
    · have htake : (f :: fs).flatten.take k = f ++ fs.flatten.take (k - f.length) := by
        rw [List.flatten_cons, List.take_append, List.take_of_length_le hk]
      obtain ⟨j, left, hrest⟩ := ih (k - f.length)
      refine ⟨j + 1, left, ?_⟩
      rw [htake, readAll_of_ok (hf.read_append _), hrest, List.take_succ_cons]

/-- A stream of frames is read back message by message, with nothing left over. -/
theorem readAll_flatten {ms : List α} {fs : List (List β)} (hnil : r.read [] = .error e)
    (h : List.Forall₂ (r.IsFrame e) ms fs) : r.readAll fs.flatten = (ms, [], e) := by
  induction h with
  | nil => simpa using readAll_of_error hnil
  | cons hf _ ih => rw [List.flatten_cons, readAll_of_ok (hf.read_append _), ih]

/-- The beginning of a stream ends inside the first part of the stream or after it. -/
theorem cut_cases {s t f u : List β} (h : s ++ t = f ++ u) :
    (∃ k < f.length, s = f.take k) ∨ ∃ s', s = f ++ s' ∧ s' ++ t = u := by
  rcases List.append_eq_append_iff.mp h with ⟨a, rfl, rfl⟩ | ⟨c, rfl, rfl⟩
  · cases a with
    | nil => exact .inr ⟨[], by rw [List.append_nil, List.append_nil], rfl⟩
    | cons b a =>
      refine .inl ⟨s.length, ?_, List.take_left.symm⟩
      rw [List.length_append, List.length_cons]
      omega
  · exact .inr ⟨c, rfl, rfl⟩

/-- A reader that succeeds on the beginning of a stream of frames has taken the first of them. -/
theorem of_read_eq_ok {ms : List α} {fs : List (List β)} {t : List β} (hnil : r.read [] = .error e)
    (h : List.Forall₂ (r.IsFrame e) ms fs) (hs : s ++ t = fs.flatten)
    (hread : r.read s = .ok (m, rest)) : ∃ ms' fs', ms = m :: ms' ∧
      List.Forall₂ (r.IsFrame e) ms' fs' ∧ rest ++ t = fs'.flatten := by
  cases h with
  | nil =>
    obtain ⟨rfl, -⟩ := List.append_eq_nil_iff.mp hs
    rw [hnil] at hread
    cases hread
  | @cons m' f ms fs hf hfs =>
    rw [List.flatten_cons] at hs
    rcases cut_cases hs with ⟨k, hk, rfl⟩ | ⟨s', rfl, hs'⟩
    · rw [hf.read_take _ hk] at hread
      cases hread
    · rw [hf.read_append] at hread
      cases hread
      exact ⟨ms, fs, rfl, hfs, hs'⟩

/-- A reader fails on the beginning of a stream of frames only as it does on a frame cut short. -/
theorem of_read_eq_error {ms : List α} {fs : List (List β)} {t : List β} {e' : ε}
    (hnil : r.read [] = .error e) (h : List.Forall₂ (r.IsFrame e) ms fs)
    (hs : s ++ t = fs.flatten) (hread : r.read s = .error e') : e' = e := by
  cases h with
  | nil =>
    obtain ⟨rfl, -⟩ := List.append_eq_nil_iff.mp hs
    rw [hnil] at hread
    exact (Except.error.inj hread).symm
  | @cons m' f ms fs hf hfs =>
    rw [List.flatten_cons] at hs
    rcases cut_cases hs with ⟨k, hk, rfl⟩ | ⟨s', rfl, -⟩
    · rw [hf.read_take _ hk] at hread
      exact (Except.error.inj hread).symm
    · rw [hf.read_append] at hread
      cases hread

end Reader

end GreaterWill
