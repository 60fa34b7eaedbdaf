import GreaterWill.Lib.Utf8
import GreaterWill.Lib.Words

/-!
# Slugs

`slugify` of `github/mod.rs` makes the title of an issue a part of a file name: its words, joined by
dashes and cut at a byte. Where that byte is within a character the slice panics.
-/

namespace GreaterWill

open Text

/-- `str::rfind`: what stands before the last occurrence of `c`. -/
def beforeLast (c : Char) (s : List Char) : Option (List Char) :=
  if c ∈ s then some (s.rdropWhile (· != c)).dropLast else none

section
variable (toLowercase : String → String) (alphanumeric : Alphanumeric)

/-- Collapse repeated dashes: the text so far, and whether a dash was the last character. -/
def collapse (acc : List Char × Bool) (c : Char) : List Char × Bool :=
  if c = '-' then (if !acc.2 && !acc.1.isEmpty then acc.1 ++ ['-'] else acc.1, true)
  else (acc.1 ++ [c], false)

/-- The slug of a title before it is cut. -/
def fullSlug (title : String) : List Char :=
  let slug := (toLowercase title).toList.map fun c => if alphanumeric.holds c then c else '-'
  ((slug.foldl collapse ([], false)).1).rdropWhile (· == '-')

/-- Convert a title into a URL-safe slug, truncated to `max_len`; `none` where a slice panics. -/
def slugify (title : String) (maxLen : Nat) : Option String :=
  let result := fullSlug toLowercase alphanumeric title
  if maxLen < byteLen result then
    -- at the last dash before `max_len`, to avoid mid-word cuts
    (takeBytes maxLen result).map fun cut => String.ofList ((beforeLast '-' cut).getD cut)
  else some (String.ofList result)

end

/-! ## The slug as words -/

section
variable {toLowercase : String → String} {alphanumeric : Alphanumeric}

/-- The words of a title. -/
def titleWords (toLowercase : String → String) (alphanumeric : Alphanumeric) (title : String) :
    List (List Char) :=
  words alphanumeric.holds (toLowercase title).toList

theorem dash_not_alphanumeric (alphanumeric : Alphanumeric) : alphanumeric.holds '-' = false := by
  rw [alphanumeric.ascii '-' (by decide)]
  decide

/-- What the pass over a text has made of it: its words, and behind them a dash if the text does
not end in a word. -/
inductive Collapsed (p : Char → Bool) : List Char → List Char × Bool → Prop where
  | empty : Collapsed p [] ([], false)
  | word {s c} (hc : p c = true) :
    Collapsed p (s ++ [c]) (joinWith '-' (words p (s ++ [c])), false)
  | blank {s c} (hc : p c = false) (hwords : words p s = []) : Collapsed p (s ++ [c]) ([], true)
  | dash {s c} (hc : p c = false) (hwords : words p s ≠ []) :
    Collapsed p (s ++ [c]) (joinWith '-' (words p s) ++ ['-'], true)

theorem joinWith_words_ne_nil {p : Char → Bool} {s : List Char} (h : words p s ≠ []) :
    joinWith '-' (words p s) ≠ [] := by
  obtain ⟨w, ws, hws⟩ := List.exists_cons_of_ne_nil h
  have hw := (word_of_mem_words (p := p) (s := s) (hws ▸ List.mem_cons_self)).1
  rw [hws, joinWith]
  exact List.append_ne_nil_of_left_ne_nil hw _

/-- One character more. -/
theorem Collapsed.step {s : List Char} {acc : List Char × Bool}
    (h : Collapsed alphanumeric.holds s acc) (c : Char) :
    Collapsed alphanumeric.holds (s ++ [c])
      (collapse acc (if alphanumeric.holds c then c else '-')) := by
  have hdash := dash_not_alphanumeric alphanumeric
  cases hc : alphanumeric.holds c with
  | true =>
    have hne : c ≠ '-' := by
      rintro rfl
      rw [hdash] at hc
      cases hc
    rw [if_pos rfl, collapse, if_neg hne]
    have hword : ∀ a ∈ [c], alphanumeric.holds a = true := by simpa using hc
    have hjoin : acc.1 ++ [c] = joinWith '-' (words alphanumeric.holds (s ++ [c])) := by
      cases h with
      | empty =>
        rw [words_append (.inl rfl) hword (List.cons_ne_nil c [])]
        rfl
      | word hc₀ =>
        obtain ⟨ws, w, hws, hws'⟩ := words_concat_word hc₀ hc _
        rw [hws, hws', joinWith_concat_append]
      | blank hc₀ hwords =>
        rw [words_append (.inr ⟨_, _, rfl, hc₀⟩) hword (List.cons_ne_nil c []),
          words_concat_of_neg hc₀, hwords]
        rfl
      | dash hc₀ hwords =>
        rw [words_append (.inr ⟨_, _, rfl, hc₀⟩) hword (List.cons_ne_nil c []),
          words_concat_of_neg hc₀, joinWith_concat hwords, List.append_assoc]
        rfl
    rw [hjoin]
    exact .word hc
  | false =>
    rw [if_neg Bool.false_ne_true, collapse, if_pos rfl]
    cases h with
    | empty => exact .blank hc rfl
    | @word s c₀ hc₀ =>
      have hwords : words alphanumeric.holds (s ++ [c₀]) ≠ [] := by
        obtain ⟨ws, w, hws, -⟩ := words_concat_word hc₀ hc₀ s
        rw [hws]
        simp
      have hjoin := List.isEmpty_eq_false_iff.mpr (joinWith_words_ne_nil hwords)
      dsimp only
      rw [hjoin]
      exact .dash hc hwords
    | blank hc₀ hwords => exact .blank hc (by rw [words_concat_of_neg hc₀, hwords])
    | @dash s c₀ hc₀ hwords =>
      have hsame := words_concat_of_neg hc₀ s
      dsimp only
      rw [← hsame] at hwords ⊢
      exact .dash hc hwords

theorem collapsed (alphanumeric : Alphanumeric) (s : List Char) :
    Collapsed alphanumeric.holds s ((s.map fun c => if alphanumeric.holds c then c else '-').foldl
      collapse ([], false)) := by
  induction s using List.reverseRecOn with
  | nil => exact .empty
  | append_singleton s c ih =>
    rw [List.map_append, List.foldl_append]
    exact ih.step c

theorem word_of_title {title : String} {w : List Char}
    (h : w ∈ titleWords toLowercase alphanumeric title) : w ≠ [] ∧ '-' ∉ w := by
  obtain ⟨hne, hw⟩ := word_of_mem_words h
  refine ⟨hne, fun hmem => ?_⟩
  have hdash := (hw '-' hmem).1
  rw [dash_not_alphanumeric] at hdash
  cases hdash

/-- Before it is cut, a slug is the words of the title with dashes between them. -/
theorem fullSlug_eq (title : String) : fullSlug toLowercase alphanumeric title =
    joinWith '-' (titleWords toLowercase alphanumeric title) := by
  have hwords : ∀ w ∈ titleWords toLowercase alphanumeric title, w ≠ [] ∧ '-' ∉ w :=
    fun _ hw => word_of_title hw
  have hlast := getLast?_joinWith hwords
  have hjoin : (joinWith '-' (titleWords toLowercase alphanumeric title)).rdropWhile (· == '-') =
      joinWith '-' (titleWords toLowercase alphanumeric title) := by
    rw [List.rdropWhile_eq_self_iff]
    intro hne heq
    apply hlast
    rw [List.getLast?_eq_some_getLast hne, beq_iff_eq.mp heq]
  have hcollapsed := collapsed alphanumeric (toLowercase title).toList
  rw [titleWords] at hjoin
  rw [fullSlug, titleWords]
  generalize (toLowercase title).toList = source at hjoin hcollapsed ⊢
  generalize ((source.map fun c => if alphanumeric.holds c then c else '-').foldl collapse
    ([], false)) = acc at hcollapsed ⊢
  cases hcollapsed with
  | empty => rfl
  | word hc => exact hjoin
  | blank hc hwords =>
    rw [words_concat_of_neg hc, hwords]
    rfl
  | dash hc hwords =>
    rw [words_concat_of_neg hc] at hjoin ⊢
    rw [List.rdropWhile_concat_pos _ _ _ rfl, hjoin]

/-! ## The cut -/

/-- What stands before the last dash has it behind it. -/
theorem prefix_of_beforeLast {c : Char} {s t : List Char} (h : beforeLast c s = some t) :
    t ++ [c] <+: s := by
  rw [beforeLast] at h
  split at h
  · next hc =>
    have hne : s.rdropWhile (· != c) ≠ [] := by
      intro hnil
      simpa using List.rdropWhile_eq_nil_iff.mp hnil c hc
    have hlast : (s.rdropWhile (· != c)).getLast hne = c := by
      simpa using List.rdropWhile_last_not _ s hne
    have hsplit := List.dropLast_append_getLast hne
    rw [hlast, Option.some.inj h] at hsplit
    rw [hsplit]
    exact List.rdropWhile_prefix _ s
  · cases h

/-- Alphanumeric characters of the source and single dashes between them. -/
structure IsSlug (alphanumeric : Alphanumeric) (source slug : List Char) : Prop where
  chars : ∀ c ∈ slug, c = '-' ∨ alphanumeric.holds c = true ∧ c ∈ source
  single : slug.IsChain fun a b => a ≠ '-' ∨ b ≠ '-'
  first : slug.head? ≠ some '-'
  last : slug.getLast? ≠ some '-'

theorem IsSlug.of_words (title : String) : IsSlug alphanumeric (toLowercase title).toList
    (joinWith '-' (titleWords toLowercase alphanumeric title)) where
  chars c hc := by
    rcases mem_joinWith hc with hc | ⟨w, hw, hc⟩
    · exact .inl hc
    · exact .inr ((word_of_mem_words hw).2 c hc)
  single := isChain_joinWith fun _ hw => word_of_title hw
  first := head?_joinWith fun _ hw => word_of_title hw
  last := getLast?_joinWith fun _ hw => word_of_title hw

/-- A beginning of a slug is one if it does not end in a dash. -/
theorem IsSlug.of_beginning {source slug t : List Char} (h : IsSlug alphanumeric source slug)
    (hbegins : t <+: slug) (hlast : t.getLast? ≠ some '-') : IsSlug alphanumeric source t where
  chars c hc := h.chars c (hbegins.subset hc)
  single := by
    obtain ⟨r, rfl⟩ := hbegins
    exact h.single.left_of_append
  first := by
    intro heq
    apply h.first
    obtain ⟨r, rfl⟩ := hbegins
    obtain ⟨t, rfl⟩ := List.head?_eq_some_iff.mp heq
    rfl
  last := hlast

/-- Before a dash, a slug does not end in one. -/
theorem IsSlug.getLast?_of_dash {source slug t : List Char} (h : IsSlug alphanumeric source slug)
    (hbegins : t ++ ['-'] <+: slug) : t.getLast? ≠ some '-' := by
  intro heq
  obtain ⟨r, rfl⟩ := hbegins
  have hchain := (List.isChain_append.mp h.single.left_of_append).2.2
  rcases hchain '-' heq '-' rfl with hne | hne
  · exact hne rfl
  · exact hne rfl

/-- A slug of at most `maxLen` bytes; where the full one is longer and has a dash among its first
`maxLen` bytes, the cut is at a word boundary. -/
structure IsCut (alphanumeric : Alphanumeric) (source full slug : List Char) (maxLen : Nat) :
    Prop where
  short : byteLen slug ≤ maxLen
  isSlug : IsSlug alphanumeric source slug
  boundary : maxLen < byteLen full →
    (∃ t, t ++ ['-'] <+: full ∧ byteLen (t ++ ['-']) ≤ maxLen) → slug ++ ['-'] <+: full

/-- A cut between two characters gives a slug. -/
theorem isCut_of_takeBytes {source full cut : List Char} {maxLen : Nat}
    (h : IsSlug alphanumeric source full) (hcut : takeBytes maxLen full = some cut) :
    IsCut alphanumeric source full ((beforeLast '-' cut).getD cut) maxLen := by
  obtain ⟨hbegins, hlength⟩ := takeBytes_eq_some.mp hcut
  cases hlast : beforeLast '-' cut with
  | some t =>
    have ht := prefix_of_beforeLast hlast
    have hfull := ht.trans hbegins
    have hdash := h.getLast?_of_dash hfull
    refine ⟨?_, h.of_beginning ((List.prefix_append t ['-']).trans hfull) hdash, fun _ _ => hfull⟩
    obtain ⟨r, rfl⟩ := ht
    rw [byteLen_append, byteLen_append] at hlength
    rw [Option.getD_some]
    omega
  | none =>
    have hnot : '-' ∉ cut := by
      intro hmem
      rw [beforeLast, if_pos hmem] at hlast
      cases hlast
    refine ⟨hlength.le, h.of_beginning hbegins fun heq => hnot (List.mem_of_getLast? heq), ?_⟩
    rintro - ⟨t, ht, hle⟩
    have hmem := (prefix_of_byteLen_le hbegins ht (hlength ▸ hle)).subset
      (List.mem_append_right t List.mem_cons_self)
    exact absurd hmem hnot

/-- `slugify` gives a slug exactly if byte `maxLen` is not within a character of the words joined
by dashes. -/
theorem slugify_isCut_iff (toLowercase : String → String) (alphanumeric : Alphanumeric)
    (title : String) (maxLen : Nat) :
    (∃ slug, slugify toLowercase alphanumeric title maxLen = some slug ∧
      IsCut alphanumeric (toLowercase title).toList
        (joinWith '-' (titleWords toLowercase alphanumeric title)) slug.toList maxLen) ↔
    ¬ Straddles maxLen (joinWith '-' (titleWords toLowercase alphanumeric title)) := by
  have hslug : IsSlug alphanumeric (toLowercase title).toList
      (joinWith '-' (titleWords toLowercase alphanumeric title)) := .of_words title
  rw [slugify, fullSlug_eq]
  generalize joinWith '-' (titleWords toLowercase alphanumeric title) = full at hslug ⊢
  split
  · next hlong =>
    rw [← takeBytes_eq_none_iff hlong.le]
    cases hcut : takeBytes maxLen full with
    | none =>
      refine iff_of_false ?_ (not_not.mpr rfl)
      rintro ⟨slug, hnone, -⟩
      cases hnone
    | some cut =>
      refine iff_of_true ⟨_, rfl, ?_⟩ (Option.some_ne_none cut)
      rw [String.toList_ofList]
      exact isCut_of_takeBytes hslug hcut
  · next hshort =>
    refine iff_of_true ⟨_, rfl, ?_⟩ fun h => hshort h.lt_byteLen
    rw [String.toList_ofList]
    exact ⟨Nat.le_of_not_lt hshort, hslug, fun hlong => absurd hlong hshort⟩

/-- A title of seventeen ideographs is cut within the last one. -/
theorem slugify_panics : ¬ ∀ (toLowercase : String → String) (alphanumeric : Alphanumeric)
    (title : String) (maxLen : Nat),
    (slugify toLowercase alphanumeric title maxLen).isSome = true := by
  intro hclaim
  have hnone : (slugify id .ideographs (String.ofList (List.replicate 17 '計')) 50).isSome =
      false := by
    decide +kernel
  rw [hclaim] at hnone
  cases hnone

end

end GreaterWill
