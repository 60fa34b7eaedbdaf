import GreaterWill.Lib.Digits
import GreaterWill.Lib.Path
import GreaterWill.Lib.Utf8

/-!
# Session names

`run_single_session` names the tmux session after the plan: the first 40 characters of the file
stem and a number of up to six digits. `validate_session_id`, which every spawn begins with, counts
the name in bytes.
-/

namespace GreaterWill.SingleSession

open Text

section
variable (α : Alphanumeric)

/-- A character that a session name may have. -/
def isSessionChar (c : Char) : Bool := α.holds c || c == '-' || c == '_'

/-- The stem of a plan's file name. -/
def planStem (planPath : PathBuf) : String :=
  ((PathBuf.fileName planPath).map PathBuf.fileStem).getD "plan"

/-- Keep only alphanumeric characters, hyphens and underscores; truncate to 40 characters. -/
def sanitized (stem : String) : List Char :=
  (stem.toList.map fun c => if isSessionChar α c then c else '-').take 40

/-- The name that `run_single_session` builds. The clock is in seconds since the epoch, `none`
before it. -/
def sessionName (planPath : PathBuf) (clock : Option UInt64) : String :=
  let shortId := clock.getD 0 % 1000000
  "gw-" ++ String.ofList (sanitized α (planStem planPath)) ++ "-" ++ shortId.toNat.repr

/-- `validate_session_id`. -/
def validateSessionId (sessionId : String) : Except String Unit :=
  if 64 < sessionId.utf8ByteSize then
    .error s!"Session ID too long: {sessionId.utf8ByteSize} (max 64 chars)"
  else if !sessionId.toList.all (isSessionChar α) then
    .error s!"Session ID contains invalid characters: {sessionId}"
  else .ok ()

/-- The bytes that a character of the stem takes in the name. -/
def nameBytes (c : Char) : Nat := if isSessionChar α c then c.utf8Size else 1

/-- The first 40 characters of the stem and the digits of the number take 60 bytes at most. -/
def NameFits (planPath : PathBuf) (clock : Option UInt64) : Prop :=
  (((planStem planPath).toList.take 40).map (nameBytes α)).sum +
    (clock.getD 0 % 1000000).toNat.repr.length ≤ 60

end

variable {α : Alphanumeric} {planPath : PathBuf} {clock : Option UInt64} {c : Char}

theorem isSessionChar_hyphen : isSessionChar α '-' = true := by simp [isSessionChar]

theorem isSessionChar_of_ascii (hc : c.toNat < 128) (halnum : c.isAlphanum = true) :
    isSessionChar α c = true := by
  rw [isSessionChar, α.ascii c hc, halnum]
  rfl

theorem isSessionChar_of_mem_sanitized {stem : String} (h : c ∈ sanitized α stem) :
    isSessionChar α c = true := by
  obtain ⟨c', -, rfl⟩ := List.mem_map.mp (List.mem_of_mem_take h)
  split
  · next hc => exact hc
  · exact isSessionChar_hyphen

theorem toNat_lt_of_isDigit (h : c.isDigit = true) : c.toNat < 128 :=
  Nat.lt_of_le_of_lt (Char.isDigit_iff_toNat.mp h).2 (by decide)

theorem isSessionChar_of_mem_repr {n : Nat} (h : c ∈ n.repr.toList) :
    isSessionChar α c = true := by
  have hdigit := isDigit_of_mem_repr h
  have halnum : c.isAlphanum = true := by rw [Char.isAlphanum, hdigit, Bool.or_true]
  exact isSessionChar_of_ascii (toNat_lt_of_isDigit hdigit) halnum

theorem byteLen_repr (n : Nat) : byteLen n.repr.toList = n.repr.length := by
  have hone : ∀ c ∈ n.repr.toList, c.utf8Size = 1 := by
    intro c hc
    have hlt := toNat_lt_of_isDigit (isDigit_of_mem_repr hc)
    exact Char.utf8Size_eq_one_iff.mpr (UInt32.le_iff_toNat_le.mpr (Nat.le_of_lt_succ hlt))
  rw [byteLen, List.map_congr_left hone, List.map_const', List.sum_replicate_nat, Nat.mul_one,
    String.length_toList]

theorem toList_sessionName (α : Alphanumeric) (planPath : PathBuf) (clock : Option UInt64) :
    (sessionName α planPath clock).toList = ['g', 'w', '-'] ++ sanitized α (planStem planPath) ++
      ['-'] ++ (clock.getD 0 % 1000000).toNat.repr.toList := by
  simp [sessionName]

/-- Every character of a name is allowed. -/
theorem all_sessionName (α : Alphanumeric) (planPath : PathBuf) (clock : Option UInt64) :
    (sessionName α planPath clock).toList.all (isSessionChar α) = true := by
  rw [toList_sessionName, List.all_eq_true]
  intro c hc
  rcases List.mem_append.mp hc with hc | hdigit
  · rcases List.mem_append.mp hc with hc | hhyphen
    · rcases List.mem_append.mp hc with hgw | hstem
      · simp only [List.mem_cons, List.not_mem_nil, or_false] at hgw
        rcases hgw with rfl | rfl | rfl
        · exact isSessionChar_of_ascii (by decide) (by decide)
        · exact isSessionChar_of_ascii (by decide) (by decide)
        · exact isSessionChar_hyphen
      · exact isSessionChar_of_mem_sanitized hstem
    · cases List.mem_singleton.mp hhyphen
      exact isSessionChar_hyphen
  · exact isSessionChar_of_mem_repr hdigit

theorem byteLen_sanitized (α : Alphanumeric) (stem : String) :
    byteLen (sanitized α stem) = ((stem.toList.take 40).map (nameBytes α)).sum := by
  rw [sanitized, ← List.map_take, byteLen, List.map_map]
  congr 2
  funext c
  rw [Function.comp_apply, nameBytes]
  split
  · rfl
  · rfl

theorem utf8ByteSize_sessionName (α : Alphanumeric) (planPath : PathBuf) (clock : Option UInt64) :
    (sessionName α planPath clock).utf8ByteSize =
      (((planStem planPath).toList.take 40).map (nameBytes α)).sum +
        (clock.getD 0 % 1000000).toNat.repr.length + 4 := by
  have hhyphen : '-'.utf8Size = 1 := rfl
  have hgw : byteLen ['g', 'w', '-'] = 3 := rfl
  rw [utf8ByteSize_eq, toList_sessionName, byteLen_append, byteLen_append, byteLen_append,
    byteLen_sanitized, byteLen_repr, hgw, byteLen_cons, byteLen_nil, hhyphen]
  omega

/-- A plan's session name is accepted exactly if it fits. -/
theorem spawnable_iff (α : Alphanumeric) (planPath : PathBuf) (clock : Option UInt64) :
    validateSessionId α (sessionName α planPath clock) = .ok () ↔ NameFits α planPath clock := by
  rw [validateSessionId, all_sessionName, utf8ByteSize_sessionName, NameFits]
  split
  · next h =>
    refine ⟨fun h' => ?_, fun _ => ?_⟩
    · cases h'
    · omega
  · next h =>
    refine ⟨fun _ => ?_, fun _ => rfl⟩
    omega

/-- The name of a plan with 20 ideographs takes 65 bytes. -/
theorem plan_of_ideographs_refused : ¬ ∀ (α : Alphanumeric) (planPath : PathBuf)
    (clock : Option UInt64), validateSessionId α (sessionName α planPath clock) = .ok () := by
  intro hclaim
  have hrefused : (validateSessionId .ideographs
      (sessionName .ideographs "plans/計画計画計画計画計画計画計画計画計画計画.md" (some 1700000000))).isOk =
        false := by
    decide +kernel
  rw [hclaim] at hrefused
  cases hrefused

/-- The name of a plan in ASCII fits. -/
theorem nameFits_of_ascii (h : ∀ c ∈ (planStem planPath).toList, c.toNat < 128)
    (clock : Option UInt64) : NameFits α planPath clock := by
  have hone : ∀ c ∈ (planStem planPath).toList.take 40, nameBytes α c = 1 := by
    intro c hc
    have hlt := h c (List.mem_of_mem_take hc)
    rw [nameBytes]
    split
    · exact Char.utf8Size_eq_one_iff.mpr (UInt32.le_iff_toNat_le.mpr (Nat.le_of_lt_succ hlt))
    · rfl
  have hdigits : (clock.getD 0 % 1000000).toNat.repr.length ≤ 6 := by
    rw [← String.length_toList, Nat.toList_repr, Nat.length_toDigits_le_iff (by decide) (by decide),
      UInt64.toNat_mod]
    exact Nat.mod_lt _ (by decide)
  rw [NameFits, List.map_congr_left hone, List.map_const', List.sum_replicate_nat, Nat.mul_one,
    List.length_take]
  omega

end GreaterWill.SingleSession
