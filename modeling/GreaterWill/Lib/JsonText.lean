import GreaterWill.Lib.Digits
import GreaterWill.Lib.Json

/-!
# JSON text

The compact text of a JSON value, its text in a layout, and a parser for JSON texts. A value without
doubles is read back from its text in any layout (`parse_renderWith`), so from the compact text
(`parse_render`), also from the UTF-8 bytes (`fromBytes_toBytes`).

The parser takes white space between tokens. Of the numbers it takes the integers of 64 bits; of the
`\u` escapes it takes those of a single character, not the surrogate pairs.
-/

namespace GreaterWill.JsonText

/-! ## Writing -/

/-- The characters that have a short escape, and the letter of the escape. -/
def shortEscapes : List (Char × Char) :=
  [('"', '"'), ('\\', '\\'), ('\x08', 'b'), ('\x0c', 'f'), ('\n', 'n'), ('\r', 'r'), ('\t', 't')]

def hexDigit (n : Nat) : Char := Nat.digitChar n

/-- A character inside a string literal. -/
def escape (c : Char) : List Char :=
  match shortEscapes.lookup c with
  | some e => ['\\', e]
  | none =>
    if c.toNat < 0x20 then ['\\', 'u', '0', '0', hexDigit (c.toNat / 16), hexDigit (c.toNat % 16)]
    else [c]

def renderString (s : String) : List Char := '"' :: s.toList.flatMap escape ++ ['"']

/-- Doubles have no text here. -/
def renderNumber : JsonNumber → List Char
  | .posInt n => n.toNat.repr.toList
  | .negInt n => '-' :: n.toInt.natAbs.repr.toList
  | .float _ => []

mutual

/-- The compact text. -/
def render : Json → List Char
  | .null => ['n', 'u', 'l', 'l']
  | .bool true => ['t', 'r', 'u', 'e']
  | .bool false => ['f', 'a', 'l', 's', 'e']
  | .number n => renderNumber n
  | .string s => renderString s
  | .array [] => ['[', ']']
  | .array (v :: vs) => '[' :: render v ++ renderItems vs
  | .object [] => ['\x7b', '\x7d']
  | .object ((k, v) :: ms) => '\x7b' :: renderString k ++ ':' :: render v ++ renderMembers ms

/-- What follows an item of an array. -/
def renderItems : List Json → List Char
  | [] => [']']
  | v :: vs => ',' :: render v ++ renderItems vs

/-- What follows a member of an object. -/
def renderMembers : List (String × Json) → List Char
  | [] => ['\x7d']
  | (k, v) :: ms => ',' :: renderString k ++ ':' :: render v ++ renderMembers ms

end

/-! ## Parsing -/

def isSpace (c : Char) : Bool := c == ' ' || c == '\n' || c == '\r' || c == '\t'

def skipSpace (s : List Char) : List Char := s.dropWhile isSpace

/-- The value of a hexadecimal digit. -/
def hexValue (c : Char) : Option Nat :=
  if c.isDigit then some (c.toNat - '0'.toNat)
  else if 'a' ≤ c ∧ c ≤ 'f' then some (c.toNat - 'a'.toNat + 10)
  else if 'A' ≤ c ∧ c ≤ 'F' then some (c.toNat - 'A'.toNat + 10)
  else none

/-- The character of a `\u` escape. -/
def unicodeEscape (a b c d : Char) : Option Char := do
  let n := (((← hexValue a) * 16 + (← hexValue b)) * 16 + (← hexValue c)) * 16 + (← hexValue d)
  if n.isValidChar then some (Char.ofNat n) else none

/-- The character of a short escape. -/
def shortEscape (e : Char) : Option Char :=
  if e = '/' then some '/' else (shortEscapes.find? (·.2 == e)).map (·.1)

/-- The rest of a string literal and what follows it. -/
def parseString : List Char → Option (List Char × List Char)
  | [] => none
  | c :: s =>
    if c = '"' then some ([], s)
    else if c = '\\' then
      match s with
      | 'u' :: a :: b :: c :: d :: s =>
        (unicodeEscape a b c d).bind fun u => (parseString s).map fun p => (u :: p.1, p.2)
      | e :: s => (shortEscape e).bind fun u => (parseString s).map fun p => (u :: p.1, p.2)
      | [] => none
    else if c.toNat < 0x20 then none
    else (parseString s).map fun p => (c :: p.1, p.2)

/-- Digits without a leading zero, and what follows them. -/
def parseNat (s : List Char) : Option (Nat × List Char) :=
  let digits := s.takeWhile (·.isDigit)
  match digits with
  | [] | '0' :: _ :: _ => none
  | _ => some (Nat.ofDigitChars 10 digits 0, s.dropWhile (·.isDigit))

/-- A number that is no fraction and has no exponent. -/
def integer (sign : Bool) (n : Nat) (rest : List Char) : Option (JsonNumber × List Char) :=
  if rest.head?.any fun c => c == '.' || c == 'e' || c == 'E' then none
  else if sign then
    if 0 < n ∧ n ≤ 2 ^ 63 then some (.negInt (Int64.ofInt (-n)), rest) else none
  else if n < 2 ^ 64 then some (.posInt (UInt64.ofNat n), rest) else none

def parseNumber : List Char → Option (JsonNumber × List Char)
  | '-' :: s => (parseNat s).bind fun p => integer true p.1 p.2
  | s => (parseNat s).bind fun p => integer false p.1 p.2

/-- The text `t`, and what follows it. -/
def token (t : List Char) (v : Json) (s : List Char) : Option (Json × List Char) :=
  (Text.stripPrefix t s).map fun rest => (v, rest)

mutual

/-- A value and what follows it; the first argument is larger than the number of tokens. -/
def parseValue : Nat → List Char → Option (Json × List Char)
  | 0, _ => none
  | fuel + 1, s =>
    match skipSpace s with
    | [] => none
    | c :: s =>
      if c = '"' then (parseString s).map fun p => (.string (String.ofList p.1), p.2)
      else if c = '[' then
        match skipSpace s with
        | ']' :: rest => some (.array [], rest)
        | s => (parseItems fuel s).map fun p => (.array p.1, p.2)
      else if c = '\x7b' then
        match skipSpace s with
        | '\x7d' :: rest => some (.object [], rest)
        | s => (parseMembers fuel s).map fun p => (.object p.1, p.2)
      else if c = 'n' then token ['u', 'l', 'l'] .null s
      else if c = 't' then token ['r', 'u', 'e'] (.bool true) s
      else if c = 'f' then token ['a', 'l', 's', 'e'] (.bool false) s
      else (parseNumber (c :: s)).map fun p => (.number p.1, p.2)

/-- The items of an array from the first one on, and what follows the array. -/
def parseItems : Nat → List Char → Option (List Json × List Char)
  | 0, _ => none
  | fuel + 1, s =>
    (parseValue fuel s).bind fun p =>
      match skipSpace p.2 with
      | ',' :: s => (parseItems fuel s).map fun q => (p.1 :: q.1, q.2)
      | ']' :: rest => some ([p.1], rest)
      | _ => none

/-- The members of an object from the first one on, and what follows the object. -/
def parseMembers : Nat → List Char → Option (List (String × Json) × List Char)
  | 0, _ => none
  | fuel + 1, s =>
    match skipSpace s with
    | '"' :: s =>
      (parseString s).bind fun k =>
        match skipSpace k.2 with
        | ':' :: s =>
          (parseValue fuel s).bind fun p =>
            let member := (String.ofList k.1, p.1)
            match skipSpace p.2 with
            | ',' :: s => (parseMembers fuel s).map fun q => (member :: q.1, q.2)
            | '\x7d' :: rest => some ([member], rest)
            | _ => none
        | _ => none
    | _ => none

end

/-- The value of a whole text. -/
def parse (s : List Char) : Option Json :=
  match parseValue (s.length + 1) s with
  | some (v, rest) => if skipSpace rest = [] then some v else none
  | none => none

/-- The bytes of the compact text. -/
def toBytes (v : Json) : List UInt8 := (String.ofList (render v)).toByteArray.data.toList

/-- The value of a text given by its bytes. -/
def fromBytes (bs : List UInt8) : Option Json :=
  (String.fromUTF8? ⟨bs.toArray⟩).bind fun s => parse s.toList

/-! ## Strings -/

theorem hexValue_hexDigit {n : Nat} (h : n < 16) : hexValue (hexDigit n) = some n := by
  have hall : ∀ n : Fin 16, hexValue (hexDigit n) = some n.val := by decide
  exact hall ⟨n, h⟩

theorem mem_of_lookup {α β : Type} [DecidableEq α] {l : List (α × β)} {a : α} {b : β}
    (h : l.lookup a = some b) : (a, b) ∈ l := by
  induction l with
  | nil => cases h
  | cons p l ih =>
    rw [List.lookup_cons] at h
    by_cases hp : a = p.1
    · rw [hp, beq_self_eq_true] at h
      rw [hp, ← Option.some.inj h]
      exact List.mem_cons_self
    · rw [beq_eq_false_iff_ne.mpr hp] at h
      exact List.mem_cons_of_mem _ (ih h)

/-- A short escape is read back, and is not taken for another one. -/
theorem shortEscape_of_lookup {c e : Char} (h : shortEscapes.lookup c = some e) :
    e ≠ 'u' ∧ shortEscape e = some c := by
  have hall : ∀ p ∈ shortEscapes, p.2 ≠ 'u' ∧ shortEscape p.2 = some p.1 := by
    simp only [shortEscapes, List.forall_mem_cons]
    decide
  exact hall _ (mem_of_lookup h)

theorem unicodeEscape_control {c : Char} (h : c.toNat < 0x20) :
    unicodeEscape '0' '0' (hexDigit (c.toNat / 16)) (hexDigit (c.toNat % 16)) = some c := by
  have hhigh := hexValue_hexDigit (n := c.toNat / 16) (by omega)
  have hlow := hexValue_hexDigit (n := c.toNat % 16) (by omega)
  have hzero : hexValue '0' = some 0 := rfl
  have hsum : ((0 * 16 + 0) * 16 + c.toNat / 16) * 16 + c.toNat % 16 = c.toNat := by omega
  have hvalid : c.toNat.isValidChar := c.valid
  simp only [unicodeEscape, hzero, hhigh, hlow, Option.bind_eq_bind, Option.bind_some]
  rw [hsum, if_pos hvalid, Char.ofNat_toNat]

theorem parseString_cons {c : Char} (hquote : c ≠ '"') (hback : c ≠ '\\')
    (hcontrol : ¬ c.toNat < 0x20) (s : List Char) :
    parseString (c :: s) = (parseString s).map fun p => (c :: p.1, p.2) := by
  rw [parseString.eq_def]
  simp only [if_neg hquote, if_neg hback, if_neg hcontrol]

/-- A written character is read back. -/
theorem parseString_escape (c : Char) (s : List Char) :
    parseString (escape c ++ s) = (parseString s).map fun p => (c :: p.1, p.2) := by
  rw [escape]
  split
  · next e hlookup =>
    obtain ⟨hne, he⟩ := shortEscape_of_lookup hlookup
    rw [List.cons_append, List.singleton_append, parseString, if_neg (by decide), if_pos rfl, he,
      Option.bind_some]
    intro _ _ _ _ _ heq
    exact absurd heq hne
  · next hlookup =>
    split
    · next hcontrol =>
      simp only [List.cons_append, List.nil_append]
      rw [parseString, if_neg (by decide), if_pos rfl, unicodeEscape_control hcontrol,
        Option.bind_some]
    · next hcontrol =>
      have hquote : c ≠ '"' := by
        rintro rfl
        exact absurd hlookup (by decide)
      have hback : c ≠ '\\' := by
        rintro rfl
        exact absurd hlookup (by decide)
      exact parseString_cons hquote hback hcontrol s

/-- A written string is read back, after its opening quote. -/
theorem parseString_append (t rest : List Char) :
    parseString (t.flatMap escape ++ '"' :: rest) = some (t, rest) := by
  induction t with
  | nil =>
    rw [List.flatMap_nil, List.nil_append, parseString.eq_def]
    exact if_pos rfl
  | cons c t ih =>
    rw [List.flatMap_cons, List.append_assoc, parseString_escape, ih]
    rfl

/-! ## Numbers -/

/-- What may follow a number: the text goes on with something else. -/
def EndsNumber (rest : List Char) : Prop :=
  ∀ c ∈ rest.head?, c.isDigit = false ∧ c ≠ '.' ∧ c ≠ 'e' ∧ c ≠ 'E'

theorem EndsNumber.nil : EndsNumber [] := by
  intro c h
  cases h

/-- A numeral of more than one digit does not begin with a zero. -/
theorem eq_nil_of_toDigits {n : Nat} {s : List Char} (h : Nat.toDigits 10 n = '0' :: s) :
    s = [] := by
  induction n using Nat.strongRecOn generalizing s with
  | ind n ih =>
    rcases Nat.lt_or_ge n 10 with hn | hn
    · rw [Nat.toDigits_of_lt_base hn] at h
      exact (List.cons.inj h).2.symm
    · rw [Nat.toDigits_of_base_le (by decide) hn] at h
      cases hhigh : Nat.toDigits 10 (n / 10) with
      | nil => exact absurd hhigh Nat.toDigits_ne_nil
      | cons c s' =>
        rw [hhigh, List.cons_append] at h
        obtain ⟨rfl, -⟩ := List.cons.inj h
        obtain rfl := ih (n / 10) (by omega) hhigh
        have hzero := Nat.ofDigitChars_ten_toDigits (n := n / 10)
        rw [hhigh] at hzero
        have : n / 10 = 0 := hzero.symm
        omega

theorem takeWhile_digits {s rest : List Char} (hs : ∀ c ∈ s, c.isDigit = true)
    (hrest : EndsNumber rest) :
    (s ++ rest).takeWhile (·.isDigit) = s ∧ (s ++ rest).dropWhile (·.isDigit) = rest := by
  induction s with
  | nil =>
    cases rest with
    | nil => exact ⟨rfl, rfl⟩
    | cons c rest =>
      have hc := (hrest c rfl).1
      simp [hc]
  | cons c s ih =>
    obtain ⟨hc, hs⟩ := List.forall_mem_cons.mp hs
    obtain ⟨htake, hdrop⟩ := ih hs
    simp [hc, htake, hdrop]

theorem parseNat_append (n : Nat) {rest : List Char} (hrest : EndsNumber rest) :
    parseNat (n.repr.toList ++ rest) = some (n, rest) := by
  obtain ⟨htake, hdrop⟩ := takeWhile_digits (fun c => Text.isDigit_of_mem_repr (n := n)) hrest
  rw [parseNat, htake, hdrop]
  split
  · next h => exact absurd h (Text.repr_toList_ne_nil n)
  · next h =>
    rw [Nat.toList_repr] at h
    have hnil := eq_nil_of_toDigits h
    cases hnil
  · rw [Nat.toList_repr, Nat.ofDigitChars_ten_toDigits]

/-- The numbers that have a text. -/
def plainNumber : JsonNumber → Bool
  | .posInt _ => true
  | .negInt n => n.toInt < 0
  | .float _ => false

theorem not_fraction {rest : List Char} (hrest : EndsNumber rest) :
    (rest.head?.any fun c => c == '.' || c == 'e' || c == 'E') = false := by
  cases rest with
  | nil => rfl
  | cons c rest =>
    obtain ⟨-, hdot, hlower, hupper⟩ := hrest c rfl
    simp [hdot, hlower, hupper]

theorem head_digit (n : Nat) : ∃ c s, n.repr.toList = c :: s ∧ c.isDigit = true := by
  cases h : n.repr.toList with
  | nil => exact absurd h (Text.repr_toList_ne_nil n)
  | cons c s =>
    refine ⟨c, s, rfl, Text.isDigit_of_mem_repr (n := n) ?_⟩
    rw [h]
    exact List.mem_cons_self

theorem parseNumber_append {n : JsonNumber} (hn : plainNumber n = true) {rest : List Char}
    (hrest : EndsNumber rest) : parseNumber (renderNumber n ++ rest) = some (n, rest) := by
  have hend := not_fraction hrest
  cases n with
  | posInt n =>
    obtain ⟨c, s, hrepr, hc⟩ := head_digit n.toNat
    have hminus : c ≠ '-' := by
      rintro rfl
      exact absurd hc (by decide)
    have hparse := parseNat_append n.toNat hrest
    rw [renderNumber]
    rw [hrepr, List.cons_append] at hparse ⊢
    rw [parseNumber, hparse]
    · rw [Option.bind_some, integer, hend]
      rw [if_neg Bool.false_ne_true, if_neg Bool.false_ne_true, if_pos n.toNat_lt,
        UInt64.ofNat_toNat]
    · intro s' heq
      exact hminus (List.cons.inj heq).1
  | negInt n =>
    have hneg : n.toInt < 0 := by simpa [plainNumber] using hn
    have hrange : 0 < n.toInt.natAbs ∧ n.toInt.natAbs ≤ 2 ^ 63 := by
      have := Int64.le_toInt n
      omega
    have hvalue : Int64.ofInt (-(n.toInt.natAbs : Int)) = n := by
      have : -(n.toInt.natAbs : Int) = n.toInt := by omega
      rw [this, Int64.ofInt_toInt]
    rw [renderNumber, List.cons_append, parseNumber, parseNat_append _ hrest, Option.bind_some,
      integer, hend, if_neg Bool.false_ne_true, if_pos rfl, if_pos hrange, hvalue]
  | float bits => cases hn

/-! ## Layouts -/

/-- The white space that a writer puts between the tokens. -/
structure Layout where
  /-- Before an item or a member of the depth, or before the bracket that closes it. -/
  line : Nat → List Char
  /-- After a colon. -/
  gap : List Char
  line_space : ∀ depth, ∀ c ∈ line depth, isSpace c = true
  gap_space : ∀ c ∈ gap, isSpace c = true

def Layout.compact : Layout where
  line _ := []
  gap := []
  line_space := by simp
  gap_space := by simp

/-- Every item and every member on a line of its own, with two spaces for a level. -/
def Layout.pretty : Layout where
  line depth := '\n' :: List.replicate (2 * depth) ' '
  gap := [' ']
  line_space := by simp [isSpace]
  gap_space := by simp [isSpace]

mutual

/-- The text in the layout. -/
def renderWith (l : Layout) : Nat → Json → List Char
  | depth, .array (v :: vs) =>
    '[' :: (l.line (depth + 1) ++ renderWith l (depth + 1) v ++ renderItemsWith l depth vs)
  | depth, .object ((k, v) :: ms) =>
    '\x7b' :: (l.line (depth + 1) ++ renderString k ++ ':' :: l.gap ++
      renderWith l (depth + 1) v ++ renderMembersWith l depth ms)
  | _, v => render v

/-- What follows an item of an array. -/
def renderItemsWith (l : Layout) : Nat → List Json → List Char
  | depth, [] => l.line depth ++ [']']
  | depth, v :: vs =>
    ',' :: (l.line (depth + 1) ++ renderWith l (depth + 1) v ++ renderItemsWith l depth vs)

/-- What follows a member of an object. -/
def renderMembersWith (l : Layout) : Nat → List (String × Json) → List Char
  | depth, [] => l.line depth ++ ['\x7d']
  | depth, (k, v) :: ms =>
    ',' :: (l.line (depth + 1) ++ renderString k ++ ':' :: l.gap ++ renderWith l (depth + 1) v ++
      renderMembersWith l depth ms)

end

mutual

/-- The layout without white space. -/
theorem renderWith_compact : ∀ (v : Json) (depth : Nat), renderWith .compact depth v = render v
  | .null, _ | .bool true, _ | .bool false, _ | .number _, _ | .string _, _ => rfl
  | .array [], _ | .object [], _ => rfl
  | .array (v :: vs), depth => by
    have hv := renderWith_compact v (depth + 1)
    have hvs := renderItemsWith_compact vs depth
    simp [renderWith, render, Layout.compact, ← hv, ← hvs]
  | .object ((k, v) :: ms), depth => by
    have hv := renderWith_compact v (depth + 1)
    have hms := renderMembersWith_compact ms depth
    simp [renderWith, render, Layout.compact, ← hv, ← hms]

theorem renderItemsWith_compact : ∀ (vs : List Json) (depth : Nat),
    renderItemsWith .compact depth vs = renderItems vs
  | [], _ => rfl
  | v :: vs, depth => by
    have hv := renderWith_compact v (depth + 1)
    have hvs := renderItemsWith_compact vs depth
    simp [renderItemsWith, renderItems, Layout.compact, ← hv, ← hvs]

theorem renderMembersWith_compact : ∀ (ms : List (String × Json)) (depth : Nat),
    renderMembersWith .compact depth ms = renderMembers ms
  | [], _ => rfl
  | (k, v) :: ms, depth => by
    have hv := renderWith_compact v (depth + 1)
    have hms := renderMembersWith_compact ms depth
    simp [renderMembersWith, renderMembers, Layout.compact, ← hv, ← hms]

end

/-! ## Values -/

mutual

/-- Whether every number has a text. -/
def plain : Json → Bool
  | .null | .bool _ | .string _ => true
  | .number n => plainNumber n
  | .array vs => plainItems vs
  | .object ms => plainMembers ms

def plainItems : List Json → Bool
  | [] => true
  | v :: vs => plain v && plainItems vs

def plainMembers : List (String × Json) → Bool
  | [] => true
  | m :: ms => plain m.2 && plainMembers ms

end

theorem skipSpace_cons {c : Char} (h : isSpace c = false) (s : List Char) :
    skipSpace (c :: s) = c :: s := by
  rw [skipSpace, List.dropWhile_cons_of_neg]
  rw [h]
  exact Bool.false_ne_true

theorem skipSpace_append {ws : List Char} (h : ∀ c ∈ ws, isSpace c = true) (s : List Char) :
    skipSpace (ws ++ s) = skipSpace s := by
  induction ws with
  | nil => rfl
  | cons c ws ih =>
    obtain ⟨hc, hws⟩ := List.forall_mem_cons.mp h
    rw [List.cons_append, skipSpace, List.dropWhile_cons_of_pos hc]
    exact ih hws

theorem skipSpace_skipSpace (s : List Char) : skipSpace (skipSpace s) = skipSpace s := by
  induction s with
  | nil => rfl
  | cons c s ih =>
    cases hc : isSpace c with
    | false => rw [skipSpace_cons hc, skipSpace_cons hc]
    | true =>
      have hskip : skipSpace (c :: s) = skipSpace s := List.dropWhile_cons_of_pos hc
      rw [hskip, ih]

/-! White space before a value is skipped. -/

theorem parseValue_skipSpace (fuel : Nat) (s : List Char) :
    parseValue fuel (skipSpace s) = parseValue fuel s := by
  cases fuel with
  | zero => rfl
  | succ fuel => rw [parseValue, parseValue, skipSpace_skipSpace]

theorem parseItems_skipSpace (fuel : Nat) (s : List Char) :
    parseItems fuel (skipSpace s) = parseItems fuel s := by
  cases fuel with
  | zero => rfl
  | succ fuel => rw [parseItems, parseItems, parseValue_skipSpace]

theorem parseMembers_skipSpace (fuel : Nat) (s : List Char) :
    parseMembers fuel (skipSpace s) = parseMembers fuel s := by
  cases fuel with
  | zero => rfl
  | succ fuel => rw [parseMembers, parseMembers, skipSpace_skipSpace]

theorem parseValue_append {ws : List Char} (h : ∀ c ∈ ws, isSpace c = true) (fuel : Nat)
    (s : List Char) : parseValue fuel (ws ++ s) = parseValue fuel s := by
  rw [← parseValue_skipSpace, skipSpace_append h, parseValue_skipSpace]

theorem parseValue_cons {c : Char} (h : isSpace c = false) (fuel : Nat) (s : List Char) :
    parseValue (fuel + 1) (c :: s) =
      if c = '"' then (parseString s).map fun p => (.string (String.ofList p.1), p.2)
      else if c = '[' then
        match skipSpace s with
        | ']' :: rest => some (.array [], rest)
        | s => (parseItems fuel s).map fun p => (.array p.1, p.2)
      else if c = '\x7b' then
        match skipSpace s with
        | '\x7d' :: rest => some (.object [], rest)
        | s => (parseMembers fuel s).map fun p => (.object p.1, p.2)
      else if c = 'n' then token ['u', 'l', 'l'] .null s
      else if c = 't' then token ['r', 'u', 'e'] (.bool true) s
      else if c = 'f' then token ['a', 'l', 's', 'e'] (.bool false) s
      else (parseNumber (c :: s)).map fun p => (.number p.1, p.2) := by
  rw [parseValue, skipSpace_cons h]

/-- The first character of a number. -/
theorem renderNumber_cons {n : JsonNumber} (hn : plainNumber n = true) :
    ∃ c s, renderNumber n = c :: s ∧ (c.isDigit = true ∨ c = '-') := by
  cases n with
  | posInt n =>
    obtain ⟨c, s, hrepr, hc⟩ := head_digit n.toNat
    exact ⟨c, s, hrepr, .inl hc⟩
  | negInt n => exact ⟨'-', _, rfl, .inr rfl⟩
  | float bits => cases hn

theorem ne_of_number {c d : Char} (hc : c.isDigit = true ∨ c = '-') (hd : d.isDigit = false)
    (hminus : d ≠ '-') : c ≠ d := by
  rintro rfl
  rcases hc with hc | hc
  · rw [hc] at hd
    cases hd
  · exact hminus hc

theorem isSpace_of_number {c : Char} (hc : c.isDigit = true ∨ c = '-') : isSpace c = false := by
  have hspace := ne_of_number hc (d := ' ') (by decide) (by decide)
  have hfeed := ne_of_number hc (d := '\n') (by decide) (by decide)
  have hreturn := ne_of_number hc (d := '\r') (by decide) (by decide)
  have htab := ne_of_number hc (d := '\t') (by decide) (by decide)
  simp [isSpace, hspace, hfeed, hreturn, htab]

/-- White space ends a number. -/
theorem endsNumber_cons {c : Char} {s : List Char}
    (h : c.isDigit = false ∧ c ≠ '.' ∧ c ≠ 'e' ∧ c ≠ 'E') : EndsNumber (c :: s) := by
  intro d hd
  cases hd
  exact h

theorem not_number_of_isSpace {c : Char} (h : isSpace c = true) :
    c.isDigit = false ∧ c ≠ '.' ∧ c ≠ 'e' ∧ c ≠ 'E' := by
  simp only [isSpace, Bool.or_eq_true, beq_iff_eq] at h
  rcases h with ((rfl | rfl) | rfl) | rfl <;> decide

theorem EndsNumber.append {ws s : List Char} (h : ∀ c ∈ ws, isSpace c = true)
    (hs : EndsNumber s) : EndsNumber (ws ++ s) := by
  cases ws with
  | nil => exact hs
  | cons c ws => exact endsNumber_cons (not_number_of_isSpace (h c List.mem_cons_self))

theorem token_append (t : List Char) (v : Json) (rest : List Char) :
    token t v (t ++ rest) = some (v, rest) := by
  rw [token, Text.stripPrefix_append, Option.map_some]

/-- A written string is read back. -/
theorem renderString_append (s : String) (rest : List Char) :
    renderString s ++ rest = '"' :: (s.toList.flatMap escape ++ '"' :: rest) := by
  rw [renderString, List.cons_append, List.cons_append, List.append_assoc, List.singleton_append]

section
variable (l : Layout) (depth : Nat)

/-- The text of a value begins with a character that is no space and closes nothing. -/
theorem renderWith_cons {v : Json} (hv : plain v = true) :
    ∃ c s, renderWith l depth v = c :: s ∧ isSpace c = false ∧ c ≠ ']' := by
  cases v with
  | null => exact ⟨_, _, rfl, by decide, by decide⟩
  | bool b => cases b <;> exact ⟨_, _, rfl, by decide, by decide⟩
  | number n =>
    obtain ⟨c, s, hrender, hc⟩ := renderNumber_cons hv
    exact ⟨c, s, hrender, isSpace_of_number hc, ne_of_number hc (by decide) (by decide)⟩
  | string s => exact ⟨_, _, rfl, by decide, by decide⟩
  | array vs => cases vs <;> exact ⟨_, _, rfl, by decide, by decide⟩
  | object ms =>
    cases ms with
    | nil => exact ⟨_, _, rfl, by decide, by decide⟩
    | cons m ms => exact ⟨_, _, rfl, by decide, by decide⟩

/-- The text of the items of an array after the white space, with the closing bracket. -/
def itemsText : List Json → List Char
  | [] => []
  | v :: vs => renderWith l (depth + 1) v ++ renderItemsWith l depth vs

/-- The text of the members of an object after the white space, with the closing brace. -/
def membersText : List (String × Json) → List Char
  | [] => []
  | (k, v) :: ms =>
    renderString k ++ ':' :: l.gap ++ renderWith l (depth + 1) v ++ renderMembersWith l depth ms

theorem renderItemsWith_cons (v : Json) (vs : List Json) :
    renderItemsWith l depth (v :: vs) =
      ',' :: (l.line (depth + 1) ++ itemsText l depth (v :: vs)) := by
  rw [renderItemsWith, itemsText, List.append_assoc]

theorem renderMembersWith_cons (m : String × Json) (ms : List (String × Json)) :
    renderMembersWith l depth (m :: ms) =
      ',' :: (l.line (depth + 1) ++ membersText l depth (m :: ms)) := by
  obtain ⟨k, v⟩ := m
  simp only [renderMembersWith, membersText, List.append_assoc]

theorem renderWith_array (v : Json) (vs : List Json) :
    renderWith l depth (.array (v :: vs)) =
      '[' :: (l.line (depth + 1) ++ itemsText l depth (v :: vs)) := by
  rw [renderWith, itemsText, List.append_assoc]

theorem renderWith_object (m : String × Json) (ms : List (String × Json)) :
    renderWith l depth (.object (m :: ms)) =
      '\x7b' :: (l.line (depth + 1) ++ membersText l depth (m :: ms)) := by
  obtain ⟨k, v⟩ := m
  simp only [renderWith, membersText, List.append_assoc]

theorem endsNumber_renderItemsWith (vs : List Json) (rest : List Char) :
    EndsNumber (renderItemsWith l depth vs ++ rest) := by
  cases vs with
  | nil =>
    rw [renderItemsWith, List.append_assoc]
    exact .append (l.line_space depth) (endsNumber_cons (by decide))
  | cons v vs => exact endsNumber_cons (by decide)

theorem endsNumber_renderMembersWith (ms : List (String × Json)) (rest : List Char) :
    EndsNumber (renderMembersWith l depth ms ++ rest) := by
  cases ms with
  | nil =>
    rw [renderMembersWith, List.append_assoc]
    exact .append (l.line_space depth) (endsNumber_cons (by decide))
  | cons m ms => exact endsNumber_cons (by decide)

theorem membersText_append (k : String) (v : Json) (ms : List (String × Json)) (rest : List Char) :
    membersText l depth ((k, v) :: ms) ++ rest =
      '"' :: (k.toList.flatMap escape ++ '"' :: ':' :: (l.gap ++
        (renderWith l (depth + 1) v ++ (renderMembersWith l depth ms ++ rest)))) := by
  simp only [membersText, List.append_assoc, renderString_append, List.cons_append]

theorem length_membersText (k : String) (v : Json) (ms : List (String × Json)) :
    (renderWith l (depth + 1) v).length + (renderMembersWith l depth ms).length <
      (membersText l depth ((k, v) :: ms)).length := by
  simp only [membersText, List.length_append, List.length_cons]
  omega

theorem length_renderItemsWith_pos (vs : List Json) : 0 < (renderItemsWith l depth vs).length := by
  cases vs <;> simp [renderItemsWith]

theorem length_renderMembersWith_pos (ms : List (String × Json)) :
    0 < (renderMembersWith l depth ms).length := by
  cases ms <;> simp [renderMembersWith]

end

mutual

/-- A value is read back from its text, whatever follows. -/
theorem parseValue_renderWith (l : Layout) : ∀ (v : Json) (depth fuel : Nat) (rest : List Char),
    plain v = true → (renderWith l depth v).length ≤ fuel → EndsNumber rest →
    parseValue fuel (renderWith l depth v ++ rest) = some (v, rest)
  | v, depth, 0, _, hv, hfuel, _ => by
    obtain ⟨c, s, hrender, -⟩ := renderWith_cons l depth hv
    rw [hrender] at hfuel
    cases hfuel
  | .null, depth, fuel + 1, rest, _, _, _ => by
    change parseValue (fuel + 1) (render .null ++ rest) = _
    rw [render, List.cons_append, parseValue_cons (by decide)]
    exact token_append ['u', 'l', 'l'] .null rest
  | .bool true, depth, fuel + 1, rest, _, _, _ => by
    change parseValue (fuel + 1) (render (.bool true) ++ rest) = _
    rw [render, List.cons_append, parseValue_cons (by decide)]
    exact token_append ['r', 'u', 'e'] (.bool true) rest
  | .bool false, depth, fuel + 1, rest, _, _, _ => by
    change parseValue (fuel + 1) (render (.bool false) ++ rest) = _
    rw [render, List.cons_append, parseValue_cons (by decide)]
    exact token_append ['a', 'l', 's', 'e'] (.bool false) rest
  | .number n, depth, fuel + 1, rest, hv, _, hrest => by
    obtain ⟨c, s, hrender, hc⟩ := renderNumber_cons hv
    have hparse := parseNumber_append hv hrest
    change parseValue (fuel + 1) (renderNumber n ++ rest) = _
    rw [hrender, List.cons_append] at hparse ⊢
    rw [parseValue_cons (isSpace_of_number hc),
      if_neg (ne_of_number hc (by decide) (by decide)),
      if_neg (ne_of_number hc (by decide) (by decide)),
      if_neg (ne_of_number hc (by decide) (by decide)),
      if_neg (ne_of_number hc (by decide) (by decide)),
      if_neg (ne_of_number hc (by decide) (by decide)),
      if_neg (ne_of_number hc (by decide) (by decide)), hparse, Option.map_some]
  | .string s, depth, fuel + 1, rest, _, _, _ => by
    change parseValue (fuel + 1) (render (.string s) ++ rest) = _
    rw [render, renderString_append, parseValue_cons (by decide), if_pos rfl,
      parseString_append, Option.map_some, String.ofList_toList]
  | .array [], depth, fuel + 1, rest, _, _, _ => by
    change parseValue (fuel + 1) (render (.array []) ++ rest) = _
    rw [render, List.cons_append, parseValue_cons (by decide), if_neg (by decide),
      if_pos rfl]
    simp only [List.singleton_append, skipSpace_cons (c := ']') (by decide)]
  | .array (v :: vs), depth, fuel + 1, rest, hv, hfuel, _ => by
    rw [renderWith_array, List.length_cons, List.length_append] at hfuel
    have hitems := parseItems_renderWith l (v :: vs) depth fuel rest (List.cons_ne_nil v vs) hv
      (by omega)
    obtain ⟨c, s, hrender, hspace, hclose⟩ :=
      renderWith_cons l (depth + 1) (Bool.and_eq_true_iff.mp hv).1
    rw [itemsText, hrender, List.cons_append, List.cons_append] at hitems
    rw [renderWith_array, List.cons_append, parseValue_cons (by decide), if_neg (by decide),
      if_pos rfl, List.append_assoc, skipSpace_append (l.line_space _), itemsText, hrender,
      List.cons_append, List.cons_append, skipSpace_cons hspace]
    split
    · next heq => exact absurd (List.cons.inj heq).1 hclose
    · rw [hitems, Option.map_some]
  | .object [], depth, fuel + 1, rest, _, _, _ => by
    change parseValue (fuel + 1) (render (.object []) ++ rest) = _
    rw [render, List.cons_append, parseValue_cons (by decide), if_neg (by decide),
      if_neg (by decide), if_pos rfl]
    simp only [List.singleton_append, skipSpace_cons (c := '\x7d') (by decide)]
  | .object ((k, v) :: ms), depth, fuel + 1, rest, hv, hfuel, _ => by
    rw [renderWith_object, List.length_cons, List.length_append] at hfuel
    have hmembers := parseMembers_renderWith l ((k, v) :: ms) depth fuel rest
      (List.cons_ne_nil _ ms) hv (by omega)
    rw [membersText_append] at hmembers
    rw [renderWith_object, List.cons_append, parseValue_cons (by decide), if_neg (by decide),
      if_neg (by decide), if_pos rfl, List.append_assoc, skipSpace_append (l.line_space _),
      membersText_append, skipSpace_cons (by decide)]
    split
    · next heq => exact absurd (List.cons.inj heq).1 (by decide)
    · rw [hmembers, Option.map_some]

theorem parseItems_renderWith (l : Layout) : ∀ (vs : List Json) (depth fuel : Nat)
    (rest : List Char), vs ≠ [] → plainItems vs = true → (itemsText l depth vs).length ≤ fuel →
    parseItems fuel (itemsText l depth vs ++ rest) = some (vs, rest)
  | [], _, _, _, h, _, _ => absurd rfl h
  | v :: vs, depth, 0, _, _, hvs, hfuel => by
    have hpos := length_renderItemsWith_pos l depth vs
    rw [itemsText, List.length_append] at hfuel
    omega
  | v :: vs, depth, fuel + 1, rest, _, hvs, hfuel => by
    obtain ⟨hv, hvs⟩ := Bool.and_eq_true_iff.mp hvs
    have hpos := length_renderItemsWith_pos l depth vs
    rw [itemsText, List.length_append] at hfuel
    have hfirst := parseValue_renderWith l v (depth + 1) fuel (renderItemsWith l depth vs ++ rest)
      hv (by omega) (endsNumber_renderItemsWith l depth vs rest)
    rw [itemsText, List.append_assoc, parseItems, hfirst, Option.bind_some]
    cases vs with
    | nil =>
      simp only [renderItemsWith, List.append_assoc, skipSpace_append (l.line_space depth),
        List.singleton_append, skipSpace_cons (c := ']') (by decide)]
    | cons w ws =>
      rw [renderItemsWith_cons, List.length_cons, List.length_append] at hfuel
      have hrest := parseItems_renderWith l (w :: ws) depth fuel rest (List.cons_ne_nil w ws) hvs
        (by omega)
      simp only [renderItemsWith_cons, List.cons_append, skipSpace_cons (c := ',') (by decide)]
      rw [← parseItems_skipSpace, List.append_assoc, skipSpace_append (l.line_space _),
        parseItems_skipSpace, hrest, Option.map_some]

theorem parseMembers_renderWith (l : Layout) : ∀ (ms : List (String × Json)) (depth fuel : Nat)
    (rest : List Char), ms ≠ [] → plainMembers ms = true →
    (membersText l depth ms).length ≤ fuel →
    parseMembers fuel (membersText l depth ms ++ rest) = some (ms, rest)
  | [], _, _, _, h, _, _ => absurd rfl h
  | (k, v) :: ms, depth, 0, _, _, hms, hfuel => by
    have hlength := length_membersText l depth k v ms
    omega
  | (k, v) :: ms, depth, fuel + 1, rest, _, hms, hfuel => by
    obtain ⟨hv, hms⟩ := Bool.and_eq_true_iff.mp hms
    have hpos := length_renderMembersWith_pos l depth ms
    have hlength := length_membersText l depth k v ms
    have hfirst := parseValue_renderWith l v (depth + 1) fuel
      (renderMembersWith l depth ms ++ rest) hv (by omega)
      (endsNumber_renderMembersWith l depth ms rest)
    rw [membersText_append, parseMembers, skipSpace_cons (by decide)]
    simp only [parseString_append, Option.bind_some, skipSpace_cons (c := ':') (by decide),
      parseValue_append l.gap_space, hfirst, String.ofList_toList]
    cases ms with
    | nil =>
      simp only [renderMembersWith, List.append_assoc, skipSpace_append (l.line_space depth),
        List.singleton_append, skipSpace_cons (c := '\x7d') (by decide)]
    | cons m ms =>
      rw [renderMembersWith_cons, List.length_cons, List.length_append] at hlength
      have hrest := parseMembers_renderWith l (m :: ms) depth fuel rest (List.cons_ne_nil m ms) hms
        (by omega)
      simp only [renderMembersWith_cons, List.cons_append, skipSpace_cons (c := ',') (by decide)]
      rw [← parseMembers_skipSpace, List.append_assoc, skipSpace_append (l.line_space _),
        parseMembers_skipSpace, hrest, Option.map_some]

end

/-- A value without doubles is read back from its text in any layout. -/
theorem parse_renderWith {v : Json} (hv : plain v = true) (l : Layout) :
    parse (renderWith l 0 v) = some v := by
  have hvalue := parseValue_renderWith l v 0 ((renderWith l 0 v).length + 1) [] hv (Nat.le_succ _)
    .nil
  rw [List.append_nil] at hvalue
  rw [parse, hvalue]
  exact if_pos rfl

theorem parse_render {v : Json} (hv : plain v = true) : parse (render v) = some v := by
  rw [← renderWith_compact v 0]
  exact parse_renderWith hv .compact

/-- The bytes of the text in the layout. -/
def bytesWith (l : Layout) (v : Json) : List UInt8 :=
  (String.ofList (renderWith l 0 v)).toByteArray.data.toList

theorem fromBytes_bytesWith {v : Json} (hv : plain v = true) (l : Layout) :
    fromBytes (bytesWith l v) = some v := by
  have hbytes : (⟨(bytesWith l v).toArray⟩ : ByteArray) =
      (String.ofList (renderWith l 0 v)).toByteArray := by
    rw [bytesWith, Array.toArray_toList]
  have hvalid := (String.ofList (renderWith l 0 v)).isValidUTF8
  rw [fromBytes, hbytes, String.fromUTF8?, dif_pos hvalid, Option.bind_some]
  exact (congrArg parse String.toList_ofList).trans (parse_renderWith hv l)

theorem fromBytes_toBytes {v : Json} (hv : plain v = true) : fromBytes (toBytes v) = some v := by
  have hbytes : toBytes v = bytesWith .compact v := by
    rw [toBytes, bytesWith, renderWith_compact]
  rw [hbytes, fromBytes_bytesWith hv]

end GreaterWill.JsonText
