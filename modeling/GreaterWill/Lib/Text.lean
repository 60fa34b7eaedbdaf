import Mathlib.Data.List.DropRight

/-!
# Text as lists of characters

The operations of Rust's `str` that a line-based reader uses, on lists of characters.
-/

namespace GreaterWill.Text

/-- `char::is_whitespace`: the Unicode property `White_Space`. -/
def isWhitespace (c : Char) : Bool :=
  let n := c.toNat
  0x09 ≤ n && n ≤ 0x0D || n == 0x20 || n == 0x85 || n == 0xA0 || n == 0x1680 ||
    0x2000 ≤ n && n ≤ 0x200A || n == 0x2028 || n == 0x2029 || n == 0x202F || n == 0x205F ||
    n == 0x3000

/-- `char::is_alphanumeric`: the Unicode properties `Alphabetic` and `Numeric`, which in ASCII the
letters and the digits have. -/
structure Alphanumeric where
  holds : Char → Bool
  ascii : ∀ c, c.toNat < 128 → holds c = c.isAlphanum

/-- The ASCII letters and digits and the CJK unified ideographs. -/
def Alphanumeric.ideographs : Alphanumeric where
  holds c := c.isAlphanum || decide (0x4E00 ≤ c.toNat ∧ c.toNat ≤ 0x9FFF)
  ascii c hc := by
    rw [decide_eq_false (by omega), Bool.or_false]

/-- `str::trim_matches`: without the characters at both ends that meet `p`. -/
def trimMatches (p : Char → Bool) (s : List Char) : List Char := (s.dropWhile p).rdropWhile p

/-- `str::trim`. -/
def trim (s : List Char) : List Char := trimMatches isWhitespace s

/-- `str::strip_prefix`. -/
def stripPrefix (pre s : List Char) : Option (List Char) := pre.isPrefixOf? s

/-- What stands before the first occurrence of `pat`, which `str::find` finds. -/
def before (pat : List Char) : List Char → Option (List Char)
  | [] => if pat.isEmpty then some [] else none
  | c :: s => if pat.isPrefixOf (c :: s) then some [] else (before pat s).map (c :: ·)

/-- `str::contains`. -/
def contains (s pat : List Char) : Bool := (before pat s).isSome

/-- `str::split_once`, at a character. -/
def splitOnce (c : Char) (s : List Char) : Option (List Char × List Char) :=
  match s.dropWhile (· != c) with
  | [] => none
  | _ :: after => some (s.takeWhile (· != c), after)

/-- The pieces between the line feeds. -/
def splitLines : List Char → List (List Char)
  | [] => [[]]
  | c :: s =>
    if c = '\n' then [] :: splitLines s
    else
      match splitLines s with
      | [] => [[c]]
      | piece :: pieces => (c :: piece) :: pieces

/-- `str::lines`: a carriage return before a line feed and an empty last line do not count. -/
def lines (s : List Char) : List (List Char) :=
  let pieces := splitLines s
  let ended := pieces.dropLast.map fun line =>
    if line.getLast? = some '\r' then line.dropLast else line
  ended ++ (pieces.getLast?.toList.filter (· ≠ []))

/-- The number that digits stand for, after an optional plus sign. -/
def parseDigits (s : List Char) : Option Nat :=
  let digits := (stripPrefix ['+'] s).getD s
  if digits.isEmpty || !digits.all (·.isDigit) then none
  else some (digits.foldl (fun n c => n * 10 + (c.toNat - '0'.toNat)) 0)

/-- `str::parse::<u32>`. -/
def parseU32 (s : List Char) : Option UInt32 :=
  ((parseDigits s).filter (· < UInt32.size)).map UInt32.ofNat

/-- `str::parse::<u64>`. -/
def parseU64 (s : List Char) : Option UInt64 :=
  ((parseDigits s).filter (· < UInt64.size)).map UInt64.ofNat

end GreaterWill.Text
