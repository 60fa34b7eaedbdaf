import GreaterWill.Lib.Lossy
import Mathlib.Data.List.Forall2

/-!
# Lossy decoding of texts

The lossy decoder returns the bytes of a text, whatever it reads (`exists_encode_eq_fromUtf8Lossy`),
and it returns the bytes of a text as they are (`fromUtf8Lossy_encode`).
-/

namespace GreaterWill

namespace Utf8

/-- The bytes of a text. -/
def encode (s : List Char) : Bytes := s.flatMap String.utf8EncodeChar

/-- A byte that continues a character where the range is asked for. -/
def Within (range : FollowerRange) (b : UInt8) : Prop := range.low ≤ b ∧ b ≤ range.high

variable {c : Char} {b : UInt8} {bs cs seen : Bytes} {s t : List Char} {range : FollowerRange}
  {ranges rest : List FollowerRange}

@[simp] theorem encode_nil : encode [] = [] := rfl

theorem encode_cons : encode (c :: s) = String.utf8EncodeChar c ++ encode s := rfl

theorem encode_append : encode (s ++ t) = encode s ++ encode t := List.flatMap_append

theorem replacement_eq_encode : replacement = encode [Char.ofNat 0xFFFD] := by decide

/-! ## Characters by their bytes -/

theorem ofNat_eq_of_toNat {n : Nat} (h : n = b.toNat) : UInt8.ofNat n = b := by
  rw [h]
  exact UInt8.ofNat_toNat

theorem toNat_ofNat_of_valid {n : Nat} (h : n < 0xD800 ∨ 0xDFFF < n ∧ n < 0x110000) :
    (Char.ofNat n).val.toNat = n := by
  have hvalid : n.isValidChar := h
  rw [Char.ofNat, dif_pos hvalid]
  rfl

theorem utf8EncodeChar_ofNat {n : Nat} (h : n < 0xD800 ∨ 0xDFFF < n ∧ n < 0x110000) :
    String.utf8EncodeChar (Char.ofNat n) =
      if n ≤ 0x7f then [UInt8.ofNat n]
      else if n ≤ 0x7ff then [UInt8.ofNat (n / 64 % 0x20 + 0xc0), UInt8.ofNat (n % 0x40 + 0x80)]
      else if n ≤ 0xffff then
        [UInt8.ofNat (n / 4096 % 0x10 + 0xe0), UInt8.ofNat (n / 64 % 0x40 + 0x80),
          UInt8.ofNat (n % 0x40 + 0x80)]
      else
        [UInt8.ofNat (n / 262144 % 0x08 + 0xf0), UInt8.ofNat (n / 4096 % 0x40 + 0x80),
          UInt8.ofNat (n / 64 % 0x40 + 0x80), UInt8.ofNat (n % 0x40 + 0x80)] := by
  rw [String.utf8EncodeChar, toNat_ofNat_of_valid h]

theorem followers_eq (b : UInt8) : followers b =
    if b.toNat < 0x80 then some []
    else if b.toNat < 0xC2 then none
    else if b.toNat < 0xE0 then some [anyFollower]
    else if b.toNat = 0xE0 then some [⟨0xA0, 0xBF, by decide⟩, anyFollower]
    else if b.toNat = 0xED then some [⟨0x80, 0x9F, by decide⟩, anyFollower]
    else if b.toNat < 0xF0 then some [anyFollower, anyFollower]
    else if b.toNat = 0xF0 then some [⟨0x90, 0xBF, by decide⟩, anyFollower, anyFollower]
    else if b.toNat < 0xF4 then some [anyFollower, anyFollower, anyFollower]
    else if b.toNat = 0xF4 then some [⟨0x80, 0x8F, by decide⟩, anyFollower, anyFollower]
    else none := by
  simp only [followers, UInt8.lt_iff_toNat_lt, ← UInt8.toNat_inj]
  rfl

theorem within_iff : Within range b ↔
    range.low.toNat ≤ b.toNat ∧ b.toNat ≤ range.high.toNat := by
  rw [Within, UInt8.le_iff_toNat_le, UInt8.le_iff_toNat_le]

theorem within_anyFollower (n : Nat) : Within anyFollower (UInt8.ofNat (n % 0x40 + 0x80)) := by
  rw [within_iff, UInt8.toNat_ofNat']
  have hlow : anyFollower.low.toNat = 0x80 := rfl
  have hhigh : anyFollower.high.toNat = 0xBF := rfl
  omega

/-- The first byte of a character asks for those that follow it. -/
theorem followers_utf8EncodeChar (c : Char) : ∃ b bs ranges, String.utf8EncodeChar c = b :: bs ∧
    followers b = some ranges ∧ List.Forall₂ Within ranges bs := by
  have hvalid : c.val.toNat < 0xD800 ∨ 0xDFFF < c.val.toNat ∧ c.val.toNat < 0x110000 := c.valid
  rw [String.utf8EncodeChar]
  generalize c.val.toNat = n at hvalid
  have hlast := within_anyFollower n
  have hmiddle := within_anyFollower (n / 64)
  have hmiddle' := within_anyFollower (n / 4096)
  split
  · refine ⟨_, _, [], rfl, ?_, .nil⟩
    rw [followers_eq, UInt8.toNat_ofNat', if_pos (by omega)]
  · split
    · refine ⟨_, _, [anyFollower], rfl, ?_, .cons hlast .nil⟩
      rw [followers_eq, UInt8.toNat_ofNat', if_neg (by omega), if_neg (by omega),
        if_pos (by omega)]
    · split
      · -- E0 asks for what is no shorter character, ED for what is no surrogate
        by_cases hsmall : n < 0x1000
        · refine ⟨_, _, [⟨0xA0, 0xBF, by decide⟩, anyFollower], rfl, ?_, .cons ?_ (.cons hlast .nil)⟩
          · rw [followers_eq, UInt8.toNat_ofNat', if_neg (by omega), if_neg (by omega),
              if_neg (by omega), if_pos (by omega)]
          · rw [within_iff, UInt8.toNat_ofNat']
            change 0xA0 ≤ _ ∧ _ ≤ 0xBF
            omega
        · by_cases hbefore : 0xD000 ≤ n ∧ n < 0xE000
          · refine ⟨_, _, [⟨0x80, 0x9F, by decide⟩, anyFollower], rfl, ?_,
              .cons ?_ (.cons hlast .nil)⟩
            · rw [followers_eq, UInt8.toNat_ofNat', if_neg (by omega), if_neg (by omega),
                if_neg (by omega), if_neg (by omega), if_pos (by omega)]
            · rw [within_iff, UInt8.toNat_ofNat']
              change 0x80 ≤ _ ∧ _ ≤ 0x9F
              omega
          · refine ⟨_, _, [anyFollower, anyFollower], rfl, ?_, .cons hmiddle (.cons hlast .nil)⟩
            rw [followers_eq, UInt8.toNat_ofNat', if_neg (by omega), if_neg (by omega),
              if_neg (by omega), if_neg (by omega), if_neg (by omega), if_pos (by omega)]
      · by_cases hsmall : n < 0x40000
        · refine ⟨_, _, [⟨0x90, 0xBF, by decide⟩, anyFollower, anyFollower], rfl, ?_,
            .cons ?_ (.cons hmiddle (.cons hlast .nil))⟩
          · rw [followers_eq, UInt8.toNat_ofNat', if_neg (by omega), if_neg (by omega),
              if_neg (by omega), if_neg (by omega), if_neg (by omega), if_neg (by omega),
              if_pos (by omega)]
          · rw [within_iff, UInt8.toNat_ofNat']
            change 0x90 ≤ _ ∧ _ ≤ 0xBF
            omega
        · by_cases hlarge : n < 0x100000
          · refine ⟨_, _, [anyFollower, anyFollower, anyFollower], rfl, ?_,
              .cons hmiddle' (.cons hmiddle (.cons hlast .nil))⟩
            rw [followers_eq, UInt8.toNat_ofNat', if_neg (by omega), if_neg (by omega),
              if_neg (by omega), if_neg (by omega), if_neg (by omega), if_neg (by omega),
              if_neg (by omega), if_pos (by omega)]
          · refine ⟨_, _, [⟨0x80, 0x8F, by decide⟩, anyFollower, anyFollower], rfl, ?_,
              .cons ?_ (.cons hmiddle (.cons hlast .nil))⟩
            · rw [followers_eq, UInt8.toNat_ofNat', if_neg (by omega), if_neg (by omega),
                if_neg (by omega), if_neg (by omega), if_neg (by omega), if_neg (by omega),
                if_neg (by omega), if_neg (by omega), if_pos (by omega)]
            · rw [within_iff, UInt8.toNat_ofNat']
              change 0x80 ≤ _ ∧ _ ≤ 0x8F
              omega

/-- The byte continues a character. -/
def Continues (b : UInt8) : Prop := 0x80 ≤ b.toNat ∧ b.toNat ≤ 0xBF

theorem exists_char_two {b₁ : UInt8} (hb : 0xC2 ≤ b.toNat ∧ b.toNat < 0xE0) (h₁ : Continues b₁) :
    ∃ c, String.utf8EncodeChar c = [b, b₁] := by
  obtain ⟨hlow₁, hhigh₁⟩ := h₁
  refine ⟨Char.ofNat ((b.toNat - 0xC0) * 0x40 + (b₁.toNat - 0x80)), ?_⟩
  rw [utf8EncodeChar_ofNat (by omega), if_neg (by omega), if_pos (by omega),
    ofNat_eq_of_toNat (b := b) (by omega), ofNat_eq_of_toNat (b := b₁) (by omega)]

theorem exists_char_three {b₁ b₂ : UInt8} (hb : 0xE0 ≤ b.toNat ∧ b.toNat < 0xF0)
    (h₁ : Continues b₁) (h₂ : Continues b₂) (hsmall : b.toNat = 0xE0 → 0xA0 ≤ b₁.toNat)
    (hsurrogate : b.toNat = 0xED → b₁.toNat ≤ 0x9F) :
    ∃ c, String.utf8EncodeChar c = [b, b₁, b₂] := by
  obtain ⟨hlow₁, hhigh₁⟩ := h₁
  obtain ⟨hlow₂, hhigh₂⟩ := h₂
  refine ⟨Char.ofNat ((b.toNat - 0xE0) * 0x1000 + (b₁.toNat - 0x80) * 0x40 + (b₂.toNat - 0x80)), ?_⟩
  rw [utf8EncodeChar_ofNat (by omega), if_neg (by omega), if_neg (by omega), if_pos (by omega),
    ofNat_eq_of_toNat (b := b) (by omega), ofNat_eq_of_toNat (b := b₁) (by omega),
    ofNat_eq_of_toNat (b := b₂) (by omega)]

theorem exists_char_four {b₁ b₂ b₃ : UInt8} (hb : 0xF0 ≤ b.toNat ∧ b.toNat ≤ 0xF4)
    (h₁ : Continues b₁) (h₂ : Continues b₂) (h₃ : Continues b₃)
    (hsmall : b.toNat = 0xF0 → 0x90 ≤ b₁.toNat) (hlarge : b.toNat = 0xF4 → b₁.toNat ≤ 0x8F) :
    ∃ c, String.utf8EncodeChar c = [b, b₁, b₂, b₃] := by
  obtain ⟨hlow₁, hhigh₁⟩ := h₁
  obtain ⟨hlow₂, hhigh₂⟩ := h₂
  obtain ⟨hlow₃, hhigh₃⟩ := h₃
  refine ⟨Char.ofNat ((b.toNat - 0xF0) * 0x40000 + (b₁.toNat - 0x80) * 0x1000 +
    (b₂.toNat - 0x80) * 0x40 + (b₃.toNat - 0x80)), ?_⟩
  rw [utf8EncodeChar_ofNat (by omega), if_neg (by omega), if_neg (by omega), if_neg (by omega),
    ofNat_eq_of_toNat (b := b) (by omega), ofNat_eq_of_toNat (b := b₁) (by omega),
    ofNat_eq_of_toNat (b := b₂) (by omega), ofNat_eq_of_toNat (b := b₃) (by omega)]

theorem continues_of_any (h : Within anyFollower b) : Continues b := within_iff.mp h

/-- Bytes as the first one asks for them are a character. -/
theorem exists_utf8EncodeChar_eq (hb : followers b = some ranges)
    (hbs : List.Forall₂ Within ranges bs) : ∃ c, String.utf8EncodeChar c = b :: bs := by
  rw [followers_eq] at hb
  split at hb
  · cases hb
    cases hbs
    refine ⟨Char.ofNat b.toNat, ?_⟩
    rw [utf8EncodeChar_ofNat (by omega), if_pos (by omega), ofNat_eq_of_toNat rfl]
  split at hb
  · cases hb
  split at hb
  · cases hb
    obtain _ | ⟨h₁, ⟨⟩⟩ := hbs
    exact exists_char_two (by omega) (continues_of_any h₁)
  split at hb
  · cases hb
    obtain _ | ⟨h₁, _ | ⟨h₂, ⟨⟩⟩⟩ := hbs
    have h₁ : 0xA0 ≤ _ ∧ _ ≤ 0xBF := within_iff.mp h₁
    exact exists_char_three (by omega) ⟨by omega, h₁.2⟩ (continues_of_any h₂) (fun _ => h₁.1)
      (by omega)
  split at hb
  · cases hb
    obtain _ | ⟨h₁, _ | ⟨h₂, ⟨⟩⟩⟩ := hbs
    have h₁ : 0x80 ≤ _ ∧ _ ≤ 0x9F := within_iff.mp h₁
    exact exists_char_three (by omega) ⟨h₁.1, by omega⟩ (continues_of_any h₂) (by omega)
      (fun _ => h₁.2)
  split at hb
  · cases hb
    obtain _ | ⟨h₁, _ | ⟨h₂, ⟨⟩⟩⟩ := hbs
    exact exists_char_three (by omega) (continues_of_any h₁) (continues_of_any h₂) (by omega)
      (by omega)
  split at hb
  · cases hb
    obtain _ | ⟨h₁, _ | ⟨h₂, _ | ⟨h₃, ⟨⟩⟩⟩⟩ := hbs
    have h₁ : 0x90 ≤ _ ∧ _ ≤ 0xBF := within_iff.mp h₁
    exact exists_char_four (by omega) ⟨by omega, h₁.2⟩ (continues_of_any h₂) (continues_of_any h₃)
      (fun _ => h₁.1) (by omega)
  split at hb
  · cases hb
    obtain _ | ⟨h₁, _ | ⟨h₂, _ | ⟨h₃, ⟨⟩⟩⟩⟩ := hbs
    exact exists_char_four (by omega) (continues_of_any h₁) (continues_of_any h₂)
      (continues_of_any h₃) (by omega) (by omega)
  split at hb
  · cases hb
    obtain _ | ⟨h₁, _ | ⟨h₂, _ | ⟨h₃, ⟨⟩⟩⟩⟩ := hbs
    have h₁ : 0x80 ≤ _ ∧ _ ≤ 0x8F := within_iff.mp h₁
    exact exists_char_four (by omega) ⟨h₁.1, by omega⟩ (continues_of_any h₂) (continues_of_any h₃)
      (by omega) (fun _ => h₁.2)
  · cases hb

/-! ## Decoding -/

theorem Decoder.step_inside (h : Within range b) :
    (Decoder.inside seen range rest).step b = goOn (seen ++ [b]) rest := if_pos h

theorem Decoder.step_inside_of_not (h : ¬ Within range b) :
    (Decoder.inside seen range rest).step b =
      (replacement ++ (startByte b).1, (startByte b).2) := if_neg h

/-- The bytes of a character come out when the last of them has been read. -/
theorem Decoder.decode_inside (hb : Within range b) (hbs : List.Forall₂ Within rest bs)
    (cs : Bytes) : (Decoder.inside seen range rest).decode (b :: (bs ++ cs)) =
      seen ++ b :: (bs ++ Decoder.start.decode cs) := by
  induction hbs generalizing seen b range with
  | nil =>
    rw [decode, step_inside hb]
    simp [goOn]
  | cons hnext _ ih =>
    rw [decode, step_inside hb]
    simp only [goOn, List.nil_append, List.cons_append]
    rw [ih hnext]
    simp

theorem Decoder.decode_char (c : Char) (cs : Bytes) :
    Decoder.start.decode (String.utf8EncodeChar c ++ cs) =
      String.utf8EncodeChar c ++ Decoder.start.decode cs := by
  obtain ⟨b, bs, ranges, hc, hb, hbs⟩ := followers_utf8EncodeChar c
  rw [hc, List.cons_append, List.cons_append, decode, step, startByte, hb]
  cases hbs with
  | nil => rfl
  | cons hnext hrest => exact decode_inside hnext hrest cs

theorem Decoder.decode_encode (s : List Char) (cs : Bytes) :
    Decoder.start.decode (encode s ++ cs) = encode s ++ Decoder.start.decode cs := by
  induction s with
  | nil => rfl
  | cons c s ih => rw [encode_cons, List.append_assoc, decode_char, ih, List.append_assoc]

/-- What the decoder keeps is the beginning of a character. -/
def Decoder.Begun : Decoder → Prop
  | .start => True
  | .inside seen range rest => ∃ b bs ranges, seen = b :: bs ∧
      followers b = some (ranges ++ range :: rest) ∧ List.Forall₂ Within ranges bs

/-- The bytes of a text come out, and the beginning of a character is kept. -/
def Sound (result : Bytes × Decoder) : Prop := (∃ s, result.1 = encode s) ∧ result.2.Begun

theorem Sound.goOn (hb : followers b = some (ranges ++ rest))
    (hbs : List.Forall₂ Within ranges bs) : Sound (goOn (b :: bs) rest) := by
  cases rest with
  | nil =>
    rw [List.append_nil] at hb
    obtain ⟨c, hc⟩ := exists_utf8EncodeChar_eq hb hbs
    refine ⟨⟨[c], ?_⟩, trivial⟩
    rw [encode_cons, hc, encode_nil, List.append_nil]
    rfl
  | cons range rest => exact ⟨⟨[], rfl⟩, b, bs, ranges, rfl, hb, hbs⟩

theorem Sound.startByte (b : UInt8) : Sound (startByte b) := by
  rw [Utf8.startByte]
  cases hb : followers b with
  | none => exact ⟨⟨_, replacement_eq_encode⟩, trivial⟩
  | some ranges =>
    have hnone : followers b = some ([] ++ ranges) := hb
    exact .goOn hnone .nil

theorem Decoder.Begun.step {d : Decoder} (h : d.Begun) (b : UInt8) : Sound (d.step b) := by
  cases d with
  | start => exact .startByte b
  | inside seen range rest =>
    obtain ⟨first, bs, ranges, rfl, hfirst, hbs⟩ := h
    by_cases hb : Within range b
    · have hread : followers first = some ((ranges ++ [range]) ++ rest) := by
        rw [List.append_assoc]
        exact hfirst
      rw [Decoder.step_inside hb]
      exact .goOn hread (List.rel_append hbs (.cons hb .nil))
    · rw [Decoder.step_inside_of_not hb]
      obtain ⟨⟨s, hs⟩, hbegun⟩ := Sound.startByte b
      refine ⟨⟨Char.ofNat 0xFFFD :: s, ?_⟩, hbegun⟩
      rw [hs, replacement_eq_encode, ← encode_append]
      rfl

theorem Decoder.Begun.decode {d : Decoder} (h : d.Begun) (bs : Bytes) :
    ∃ s, d.decode bs = encode s := by
  induction bs generalizing d with
  | nil =>
    cases d with
    | start => exact ⟨[], rfl⟩
    | inside seen range rest => exact ⟨_, replacement_eq_encode⟩
  | cons b bs ih =>
    obtain ⟨⟨s, hs⟩, hbegun⟩ := h.step b
    obtain ⟨t, ht⟩ := ih hbegun
    refine ⟨s ++ t, ?_⟩
    rw [Decoder.decode, hs, ht, encode_append]

end Utf8

namespace Utf8

theorem encode_eq_toByteArray (s : List Char) :
    encode s = (String.ofList s).toByteArray.data.toList := by
  rw [String.toByteArray_ofList, List.utf8Encode, encode, List.data_toByteArray]

theorem encode_injective : Function.Injective encode := by
  intro s t h
  rw [encode_eq_toByteArray, encode_eq_toByteArray] at h
  have hbytes : (String.ofList s).toByteArray = (String.ofList t).toByteArray :=
    ByteArray.ext (Array.toList_inj.mp h)
  exact String.ofList_injective (String.toByteArray_inj.mp hbytes)

/-- What the decoder has read of a character. -/
def Decoder.seen : Decoder → Bytes
  | .start => []
  | .inside seen _ _ => seen

/-- Bytes that come out or are kept. -/
def outcome (result : Bytes × Decoder) : Bytes := result.1 ++ result.2.seen

theorem outcome_goOn : outcome (goOn seen rest) = seen := by
  cases rest with
  | nil => exact List.append_nil seen
  | cons range rest => rfl

theorem outcome_startByte_subset (b : UInt8) : outcome (startByte b) ⊆ b :: replacement := by
  rw [startByte]
  cases followers b with
  | none =>
    rw [outcome, Decoder.seen, List.append_nil]
    exact List.subset_cons_self b replacement
  | some ranges =>
    rw [outcome_goOn]
    exact List.cons_subset_cons b (List.nil_subset _)

theorem outcome_step_subset (d : Decoder) (b : UInt8) :
    outcome (d.step b) ⊆ b :: replacement ++ d.seen := by
  have hstart : outcome (startByte b) ⊆ b :: replacement ++ d.seen :=
    List.Subset.trans (outcome_startByte_subset b) (List.subset_append_left _ _)
  cases d with
  | start => exact hstart
  | inside seen range rest =>
    by_cases hb : Within range b
    · rw [Decoder.step_inside hb, outcome_goOn]
      intro x hx
      simp only [List.mem_append, List.mem_singleton] at hx
      simp only [List.mem_append, List.mem_cons, Decoder.seen]
      tauto
    · rw [Decoder.step_inside_of_not hb, outcome, List.append_assoc]
      apply List.append_subset.mpr
      refine ⟨?_, hstart⟩
      intro x hx
      exact List.mem_append_left _ (List.mem_cons_of_mem b hx)

/-- No bytes come out but those read and those of the replacement. -/
theorem Decoder.decode_subset (d : Decoder) (bs : Bytes) :
    d.decode bs ⊆ bs ++ replacement ++ d.seen := by
  induction bs generalizing d with
  | nil =>
    cases d with
    | start => exact List.nil_subset _
    | inside seen range rest => exact List.subset_append_left _ _
  | cons b bs ih =>
    have hstep := outcome_step_subset d b
    have hrest := ih (d.step b).2
    intro x hx
    rw [decode, List.mem_append] at hx
    have hout : x ∈ outcome (d.step b) ∨ x ∈ bs ++ replacement := by
      rcases hx with hx | hx
      · exact .inl (List.mem_append_left _ hx)
      · rcases List.mem_append.mp (hrest hx) with hx | hx
        · exact .inr hx
        · exact .inl (List.mem_append_right _ hx)
    rcases hout with hx | hx
    · have hx := hstep hx
      simp only [List.mem_append, List.mem_cons] at hx ⊢
      tauto
    · simp only [List.mem_append, List.mem_cons] at hx ⊢
      tauto

/-- The decoder at the end of a line. -/
theorem Decoder.decode_append_lineFeed (d : Decoder) (bs cs : Bytes) :
    d.decode (bs ++ lineFeed :: cs) = d.decode bs ++ lineFeed :: Decoder.start.decode cs := by
  induction bs generalizing d with
  | nil =>
    rw [List.nil_append, decode, decode, step_lineFeed, List.append_assoc]
    rfl
  | cons b bs ih => rw [List.cons_append, decode, decode, ih, List.append_assoc]

end Utf8

open Utf8

/-- A text is decoded to itself. -/
theorem fromUtf8Lossy_encode (s : List Char) : fromUtf8Lossy (encode s) = encode s := by
  have hdecode := Decoder.decode_encode s []
  rw [List.append_nil] at hdecode
  exact hdecode.trans (List.append_nil _)

/-- What is decoded is a text. -/
theorem exists_encode_eq_fromUtf8Lossy (bs : Bytes) : ∃ s, fromUtf8Lossy bs = encode s := by
  exact Decoder.Begun.decode (d := .start) trivial bs

/-- The text of the decoded bytes. -/
def lossyText (bs : Bytes) : List Char :=
  ((String.fromUTF8? ⟨(fromUtf8Lossy bs).toArray⟩).map String.toList).getD []

theorem encode_lossyText (bs : Bytes) : encode (lossyText bs) = fromUtf8Lossy bs := by
  obtain ⟨s, hs⟩ := exists_encode_eq_fromUtf8Lossy bs
  have hbytes : (⟨(encode s).toArray⟩ : ByteArray) = (String.ofList s).toByteArray := by
    rw [encode_eq_toByteArray, Array.toArray_toList]
  have hvalid := (String.ofList s).isValidUTF8
  rw [lossyText, hs, hbytes, String.fromUTF8?, dif_pos hvalid]
  exact congrArg encode String.toList_ofList

theorem lossyText_encode (s : List Char) : lossyText (encode s) = s :=
  encode_injective ((encode_lossyText _).trans (fromUtf8Lossy_encode s))

/-- A line is decoded apart from what follows it. -/
theorem lossyText_append_lineFeed (bs cs : Bytes) :
    lossyText (bs ++ lineFeed :: cs) = lossyText bs ++ '\n' :: lossyText cs := by
  apply encode_injective
  rw [encode_append, encode_cons, encode_lossyText, encode_lossyText, encode_lossyText]
  exact Decoder.decode_append_lineFeed .start bs cs

theorem lineFeed_mem_encode {s : List Char} (h : '\n' ∈ s) : lineFeed ∈ encode s :=
  List.mem_flatMap.mpr ⟨'\n', h, by decide⟩

/-- Bytes without a line feed are decoded to a line. -/
theorem notMem_lossyText {bs : Bytes} (h : lineFeed ∉ bs) : '\n' ∉ lossyText bs := by
  intro hmem
  have hdecode := lineFeed_mem_encode hmem
  rw [encode_lossyText] at hdecode
  rcases List.mem_append.mp (Decoder.decode_subset .start bs hdecode) with hread | hseen
  · rcases List.mem_append.mp hread with hread | hreplacement
    · exact h hread
    · exact absurd hreplacement (by decide)
  · exact absurd hseen List.not_mem_nil

end GreaterWill
