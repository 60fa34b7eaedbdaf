import Mathlib.Data.UInt

/-!
# Lossy decoding of UTF-8

A string is its UTF-8 bytes. The decoder reads one byte after the other; what cannot be the
beginning of a character is replaced by U+FFFD, one for every maximal part that could have become
one. A line feed ends what came before it, so text can be decoded line by line:
`fromUtf8Lossy_append`.
-/

namespace GreaterWill

abbrev Bytes := List UInt8

/-- The range of a continuation byte. -/
structure FollowerRange where
  low : UInt8
  high : UInt8
  low_ge : 0x80 ≤ low
  deriving DecidableEq

namespace Utf8

def lineFeed : UInt8 := 0x0A

def replacement : Bytes := [0xEF, 0xBF, 0xBD]

def anyFollower : FollowerRange := ⟨0x80, 0xBF, by decide⟩

/-- The continuation bytes a first byte asks for, unless no character begins with it. -/
def followers (b : UInt8) : Option (List FollowerRange) :=
  if b < 0x80 then some []
  else if b < 0xC2 then none
  else if b < 0xE0 then some [anyFollower]
  else if b = 0xE0 then some [⟨0xA0, 0xBF, by decide⟩, anyFollower]
  else if b = 0xED then some [⟨0x80, 0x9F, by decide⟩, anyFollower]
  else if b < 0xF0 then some [anyFollower, anyFollower]
  else if b = 0xF0 then some [⟨0x90, 0xBF, by decide⟩, anyFollower, anyFollower]
  else if b < 0xF4 then some [anyFollower, anyFollower, anyFollower]
  else if b = 0xF4 then some [⟨0x80, 0x8F, by decide⟩, anyFollower, anyFollower]
  else none

/-- The decoder between two bytes. -/
inductive Decoder where
  | start
  /-- It has read `seen` of a character and waits for `range` and then `rest`. -/
  | inside (seen : Bytes) (range : FollowerRange) (rest : List FollowerRange)
  deriving DecidableEq

/-- What is decoded when the character so far is `seen` and `rest` must follow. -/
def goOn (seen : Bytes) : List FollowerRange → Bytes × Decoder
  | [] => (seen, .start)
  | range :: rest => ([], .inside seen range rest)

/-- A byte at the beginning of a character. -/
def startByte (b : UInt8) : Bytes × Decoder :=
  match followers b with
  | some rest => goOn [b] rest
  | none => (replacement, .start)

def Decoder.step : Decoder → UInt8 → Bytes × Decoder
  | .start, b => startByte b
  | .inside seen range rest, b =>
    if range.low ≤ b ∧ b ≤ range.high then goOn (seen ++ [b]) rest
    else (replacement ++ (startByte b).1, (startByte b).2)

/-- What is decoded at the end. -/
def Decoder.finish : Decoder → Bytes
  | .start => []
  | .inside .. => replacement

def Decoder.decode : Decoder → Bytes → Bytes
  | d, [] => d.finish
  | d, b :: bs => (d.step b).1 ++ (d.step b).2.decode bs

/-- A line feed ends what came before it. -/
theorem Decoder.step_lineFeed (d : Decoder) :
    d.step lineFeed = (d.finish ++ [lineFeed], .start) := by
  cases d with
  | start => rfl
  | inside seen range rest =>
    have hnot : ¬ (range.low ≤ lineFeed ∧ lineFeed ≤ range.high) := by
      intro ⟨hlow, _⟩
      exact absurd (UInt8.le_trans range.low_ge hlow) (by decide)
    rw [step, if_neg hnot]
    rfl

/-- A line feed at the end stays there. -/
theorem Decoder.decode_lineFeed (d : Decoder) (bs : Bytes) :
    ∃ out, d.decode (bs ++ [lineFeed]) = out ++ [lineFeed] := by
  induction bs generalizing d with
  | nil =>
    refine ⟨d.finish, ?_⟩
    rw [List.nil_append, decode, decode, step_lineFeed]
    exact List.append_nil _
  | cons b bs ih =>
    obtain ⟨out, hout⟩ := ih (d.step b).2
    refine ⟨(d.step b).1 ++ out, ?_⟩
    rw [List.cons_append, decode, hout, List.append_assoc]

end Utf8

/-- `String::from_utf8_lossy`. -/
def fromUtf8Lossy (bs : Bytes) : Bytes := Utf8.Decoder.start.decode bs

/-- The text is made of whole lines. -/
def EndsLine (bs : Bytes) : Prop := ∀ b ∈ bs.getLast?, b = Utf8.lineFeed

instance (bs : Bytes) : Decidable (EndsLine bs) :=
  inferInstanceAs (Decidable (∀ b ∈ bs.getLast?, b = Utf8.lineFeed))

theorem EndsLine.nil : EndsLine [] := fun _ h => nomatch h

theorem EndsLine.append {bs cs : Bytes} (hbs : EndsLine bs) (hcs : EndsLine cs) :
    EndsLine (bs ++ cs) := by
  intro b hb
  rw [List.getLast?_append] at hb
  cases hlast : cs.getLast? with
  | none =>
    rw [hlast] at hb
    exact hbs b hb
  | some c =>
    rw [hlast] at hb
    exact hcs b (hlast.trans hb)

/-- A nonempty text of whole lines, without its last line feed. -/
theorem EndsLine.exists_append {bs : Bytes} (h : EndsLine bs) (hne : bs ≠ []) :
    ∃ init, bs = init ++ [Utf8.lineFeed] := by
  refine ⟨bs.dropLast, ?_⟩
  have hlast := h _ (List.getLast_mem_getLast? hne)
  rw [← hlast]
  exact (List.dropLast_append_getLast hne).symm

theorem fromUtf8Lossy_ne_nil {bs : Bytes} (h : EndsLine bs) (hne : bs ≠ []) :
    fromUtf8Lossy bs ≠ [] := by
  obtain ⟨init, rfl⟩ := h.exists_append hne
  obtain ⟨out, hout⟩ := Utf8.Decoder.decode_lineFeed .start init
  rw [fromUtf8Lossy, hout]
  exact List.append_ne_nil_of_right_ne_nil _ (List.cons_ne_nil _ _)

example : fromUtf8Lossy [0x61, 0xE1, 0x80, 0x62, 0xFF, 0xC3, 0xA9] =
    0x61 :: (Utf8.replacement ++ 0x62 :: (Utf8.replacement ++ [0xC3, 0xA9])) := by decide

end GreaterWill
