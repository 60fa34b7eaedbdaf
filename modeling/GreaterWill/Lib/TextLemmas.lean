import GreaterWill.Lib.Text

/-!
# Lemmas about texts

What prefixes, first occurrences, trimming and lines are, as equations between lists.
-/

namespace GreaterWill.Text

variable {pre pat s t a b m : List Char} {c : Char} {p : Char → Bool}

/-! ## Prefixes -/

theorem stripPrefix_eq_some : stripPrefix pre s = some t ↔ s = pre ++ t := by
  induction pre generalizing s with
  | nil => simp [stripPrefix, List.isPrefixOf?, eq_comm]
  | cons c pre ih =>
    cases s with
    | nil => simp [stripPrefix, List.isPrefixOf?]
    | cons c' s =>
      have hstep : stripPrefix (c :: pre) (c' :: s) =
          if c == c' then stripPrefix pre s else none := rfl
      rw [hstep]
      by_cases h : c = c'
      · subst h
        simp [ih]
      · have hne : c' ≠ c := fun heq => h heq.symm
        simp [h, hne]

@[simp] theorem stripPrefix_append (pre t : List Char) : stripPrefix pre (pre ++ t) = some t :=
  stripPrefix_eq_some.mpr rfl

/-! ## Trimming -/

theorem dropWhile_append_of_all (h : ∀ c ∈ a, p c = true) (s : List Char) :
    (a ++ s).dropWhile p = s.dropWhile p := by
  induction a with
  | nil => rfl
  | cons c a ih =>
    obtain ⟨hc, ha⟩ := List.forall_mem_cons.mp h
    rw [List.cons_append, List.dropWhile_cons_of_pos hc, ih ha]

theorem dropWhile_append_cons (hc : p c = false) (a s : List Char) :
    (a ++ c :: s).dropWhile p = a.dropWhile p ++ c :: s := by
  rw [List.dropWhile_append]
  split
  · next hempty =>
    rw [List.isEmpty_iff.mp hempty, List.dropWhile_cons_of_neg]
    · rfl
    · rw [hc]
      exact Bool.false_ne_true
  · rfl

theorem rdropWhile_append_of_all (h : ∀ c ∈ b, p c = true) (s : List Char) :
    (s ++ b).rdropWhile p = s.rdropWhile p := by
  induction b using List.reverseRecOn with
  | nil => rw [List.append_nil]
  | append_singleton b c ih =>
    obtain ⟨hb, hc⟩ := List.forall_mem_append.mp h
    rw [← List.append_assoc, List.rdropWhile_concat_pos p _ c (hc c List.mem_cons_self), ih hb]

@[simp] theorem trimMatches_append_left (h : ∀ c ∈ a, p c = true) (s : List Char) :
    trimMatches p (a ++ s) = trimMatches p s := by
  rw [trimMatches, dropWhile_append_of_all h, trimMatches]

theorem trimMatches_append_right (h : ∀ c ∈ b, p c = true) (s : List Char) :
    trimMatches p (s ++ b) = trimMatches p s := by
  rw [trimMatches, List.dropWhile_append, trimMatches]
  split
  · next hempty =>
    rw [List.isEmpty_iff.mp hempty, List.dropWhile_eq_nil_iff.mpr h]
  · exact rdropWhile_append_of_all h _

/-- Between characters that are trimmed, a text stays that neither begins nor ends with one. -/
theorem trimMatches_append (ha : ∀ c ∈ a, p c = true) (hb : ∀ c ∈ b, p c = true)
    (hm : trimMatches p m = m) : trimMatches p (a ++ m ++ b) = m := by
  rw [trimMatches_append_right hb, trimMatches_append_left ha, hm]

theorem trimMatches_of_forall (h : ∀ c ∈ s, p c = false) : trimMatches p s = s := by
  have hleft : s.dropWhile p = s := by
    cases s with
    | nil => rfl
    | cons c s =>
      rw [List.dropWhile_cons_of_neg]
      rw [h c List.mem_cons_self]
      exact Bool.false_ne_true
  rw [trimMatches, hleft, List.rdropWhile_eq_self_iff]
  intro hne
  rw [h _ (List.getLast_mem hne)]
  exact Bool.false_ne_true

/-- What is trimmed away. -/
theorem exists_trimMatches (p : Char → Bool) (s : List Char) :
    ∃ a b, s = a ++ trimMatches p s ++ b ∧ (∀ c ∈ a, p c = true) ∧ ∀ c ∈ b, p c = true := by
  refine ⟨s.takeWhile p, (s.dropWhile p).rtakeWhile p, ?_, ?_, ?_⟩
  · rw [trimMatches, List.append_assoc, List.rdropWhile_append_rtakeWhile,
      List.takeWhile_append_dropWhile]
  · exact fun c hc => List.mem_takeWhile_imp hc
  · exact fun c hc => List.mem_rtakeWhile_imp hc

theorem length_trimMatches_le (p : Char → Bool) (s : List Char) :
    (trimMatches p s).length ≤ s.length :=
  (List.rdropWhile_prefix p _).length_le.trans (List.dropWhile_suffix p).length_le

theorem dropWhile_of_trimMatches (h : trimMatches p s = s) : s.dropWhile p = s := by
  have hsuffix := List.dropWhile_suffix (l := s) p
  have hlength := (List.rdropWhile_prefix p (s.dropWhile p)).length_le
  rw [trimMatches] at h
  rw [h] at hlength
  exact hsuffix.eq_of_length_le hlength

theorem trimMatches_rdropWhile (p : Char → Bool) (s : List Char) :
    trimMatches p (s.rdropWhile p) = trimMatches p s := by
  have hs : s.rdropWhile p ++ s.rtakeWhile p = s := List.rdropWhile_append_rtakeWhile
  conv_rhs => rw [← hs]
  exact (trimMatches_append_right (fun c hc => List.mem_rtakeWhile_imp hc) _).symm

@[simp] theorem trimMatches_trimMatches (p : Char → Bool) (s : List Char) :
    trimMatches p (trimMatches p s) = trimMatches p s := by
  have hidem : trimMatches p (s.dropWhile p) = trimMatches p s := by
    rw [trimMatches, List.dropWhile_idempotent, trimMatches]
  exact (trimMatches_rdropWhile p (s.dropWhile p)).trans hidem

theorem dropWhile_eq_self_iff : s.dropWhile p = s ↔ ¬ ∃ c t, s = c :: t ∧ p c = true := by
  cases s with
  | nil => simp
  | cons c s =>
    by_cases hc : p c = true
    · have hlength := (List.dropWhile_suffix (l := s) p).length_le
      rw [List.dropWhile_cons_of_pos hc]
      refine iff_of_false (fun h => ?_) (not_not.mpr ⟨c, s, rfl, hc⟩)
      rw [h, List.length_cons] at hlength
      omega
    · rw [List.dropWhile_cons_of_neg hc]
      refine iff_of_true rfl ?_
      rintro ⟨c', t, heq, hc'⟩
      cases heq
      exact hc hc'

theorem rdropWhile_append_of_last (hlast : pre.getLast? = some c) (hc : p c = false)
    (s : List Char) : (pre ++ s).rdropWhile p = pre ++ s.rdropWhile p := by
  obtain ⟨q, rfl⟩ := List.getLast?_eq_some_iff.mp hlast
  induction s using List.reverseRecOn with
  | nil =>
    rw [List.append_nil, List.rdropWhile_nil, List.append_nil]
    exact List.rdropWhile_concat_neg p q c (by rw [hc]; exact Bool.false_ne_true)
  | append_singleton s d ih =>
    rw [← List.append_assoc]
    by_cases hd : p d = true
    · rw [List.rdropWhile_concat_pos p _ d hd, List.rdropWhile_concat_pos p _ d hd, ih]
    · rw [List.rdropWhile_concat_neg p _ d hd, List.rdropWhile_concat_neg p _ d hd,
        List.append_assoc]

theorem rdropWhile_of_last (hlast : pre.getLast? = some c) (hc : p c = false) :
    pre.rdropWhile p = pre := by
  have happend := rdropWhile_append_of_last hlast hc []
  rwa [List.append_nil, List.rdropWhile_nil, List.append_nil] at happend

/-- A prefix that does not end in white space is stripped before or after the trimming at the
end. -/
theorem stripPrefix_trim (hlast : pre.getLast? = some c) (hc : isWhitespace c = false)
    (s : List Char) : stripPrefix pre (trim s) =
      (stripPrefix pre (s.dropWhile isWhitespace)).map (·.rdropWhile isWhitespace) := by
  rw [trim, trimMatches]
  generalize s.dropWhile isWhitespace = u
  cases h : stripPrefix pre u with
  | some t =>
    rw [stripPrefix_eq_some.mp h, rdropWhile_append_of_last hlast hc, stripPrefix_append,
      Option.map_some]
  | none =>
    cases h' : stripPrefix pre (u.rdropWhile isWhitespace) with
    | none => rfl
    | some t =>
      have hu : u.rdropWhile isWhitespace ++ u.rtakeWhile isWhitespace = u :=
        List.rdropWhile_append_rtakeWhile
      rw [stripPrefix_eq_some.mp h', List.append_assoc] at hu
      rw [← hu, stripPrefix_append] at h
      cases h

/-! ## First occurrences -/

theorem isPrefixOf_append_cons (hc : c ∉ pat) (a s : List Char) :
    pat.isPrefixOf (a ++ c :: s) = pat.isPrefixOf a := by
  induction a generalizing pat with
  | nil =>
    cases pat with
    | nil => rfl
    | cons d pat =>
      have hne : d ≠ c := (List.ne_of_not_mem_cons hc).symm
      simp [List.isPrefixOf, hne]
  | cons d a ih =>
    cases pat with
    | nil => rfl
    | cons e pat =>
      rw [List.cons_append, List.isPrefixOf, List.isPrefixOf, ih (List.not_mem_of_not_mem_cons hc)]

@[simp] theorem before_append_self (pat s : List Char) : before pat (pat ++ s) = some [] := by
  cases pat with
  | nil =>
    cases s with
    | nil => rfl
    | cons c s => rfl
  | cons c pat =>
    rw [List.cons_append, before, if_pos]
    exact List.isPrefixOf_iff_prefix.mpr (List.prefix_append (c :: pat) s)

/-- An occurrence does not go across a character that the pattern does not have. -/
theorem before_append_cons (hne : pat ≠ []) (hc : c ∉ pat) (a s : List Char) :
    before pat (a ++ c :: s) = (before pat a).or ((before pat s).map (a ++ c :: ·)) := by
  have hpre : ∀ a, pat.isPrefixOf (a ++ c :: s) = pat.isPrefixOf a := fun a =>
    isPrefixOf_append_cons hc a s
  induction a with
  | nil =>
    have hnil : pat.isPrefixOf [] = false := by
      cases pat with
      | nil => exact absurd rfl hne
      | cons d pat => rfl
    rw [List.nil_append, before, before, ← List.nil_append (c :: s), hpre, hnil,
      List.isEmpty_eq_false_iff.mpr hne]
    rfl
  | cons d a ih =>
    rw [List.cons_append, before, before, ← List.cons_append, hpre, ih]
    split
    · rfl
    · cases before pat a with
      | some t => rfl
      | none =>
        rw [Option.none_or, Option.map_none, Option.none_or, Option.map_map]
        rfl

theorem before_nil (hne : pat ≠ []) : before pat [] = none := by
  rw [before, List.isEmpty_eq_false_iff.mpr hne]
  rfl

theorem before_append_of_disjoint (hne : pat ≠ []) (hm : ∀ c ∈ m, c ∉ pat) (s : List Char) :
    before pat (m ++ s) = (before pat s).map (m ++ ·) := by
  induction m with
  | nil =>
    rw [List.nil_append]
    exact Option.map_id'.symm
  | cons c m ih =>
    obtain ⟨hc, hm⟩ := List.forall_mem_cons.mp hm
    have hstep := before_append_cons hne hc [] (m ++ s)
    rw [List.nil_append, before_nil hne, Option.none_or, ih hm, Option.map_map] at hstep
    exact hstep

/-- Nor does it go across a text that has no character of it. -/
theorem before_append_append (hne : pat ≠ []) (hm : ∀ c ∈ m, c ∉ pat) (hm' : m ≠ [])
    (a s : List Char) :
    before pat (a ++ m ++ s) = (before pat a).or ((before pat s).map (a ++ m ++ ·)) := by
  obtain ⟨c, m, rfl⟩ := List.exists_cons_of_ne_nil hm'
  obtain ⟨hc, hm⟩ := List.forall_mem_cons.mp hm
  rw [List.append_assoc, List.cons_append, before_append_cons hne hc,
    before_append_of_disjoint hne hm, Option.map_map]
  congr 2
  funext t
  simp

theorem before_eq_some_append (h : before pat s = some t) : ∃ r, s = t ++ pat ++ r := by
  induction s generalizing t with
  | nil =>
    rw [before] at h
    split at h
    · next hempty =>
      cases h
      exact ⟨[], by rw [List.isEmpty_iff.mp hempty]; rfl⟩
    · cases h
  | cons c s ih =>
    rw [before] at h
    split at h
    · next hpre =>
      cases h
      obtain ⟨r, hr⟩ := List.isPrefixOf_iff_prefix.mp hpre
      exact ⟨r, hr.symm⟩
    · obtain ⟨t', ht', rfl⟩ := Option.map_eq_some_iff.mp h
      obtain ⟨r, hr⟩ := ih ht'
      exact ⟨r, by rw [hr]; rfl⟩

theorem isSome_before_iff (pat s : List Char) : (before pat s).isSome = true ↔ pat <:+: s := by
  induction s with
  | nil => cases pat <;> simp [before]
  | cons c s ih =>
    rw [before, List.infix_cons_iff, ← ih, ← List.isPrefixOf_iff_prefix]
    split
    · next h => simp [h]
    · next h => simp [h]

theorem contains_iff : contains s pat = true ↔ pat <:+: s :=
  isSome_before_iff pat s

theorem before_rdropWhile (hne : pat ≠ []) (hp : ∀ c, p c = true → c ∉ pat) (s : List Char) :
    before pat (s.rdropWhile p) = before pat s := by
  have hs : s.rdropWhile p ++ s.rtakeWhile p = s := List.rdropWhile_append_rtakeWhile
  have hspace : ∀ c ∈ s.rtakeWhile p, c ∉ pat := fun c hc => hp c (List.mem_rtakeWhile_imp hc)
  conv_rhs => rw [← hs]
  by_cases hempty : s.rtakeWhile p = []
  · rw [hempty, List.append_nil]
  · have hsplit := before_append_append hne hspace hempty (s.rdropWhile p) []
    rw [List.append_nil, before_nil hne, Option.map_none, Option.or_none] at hsplit
    exact hsplit.symm

/-- Before the first occurrence, a text without characters of the pattern can be replaced by
another. -/
theorem before_replace {m' t : List Char} (hne : pat ≠ []) (hm : ∀ c ∈ m, c ∉ pat) (hm₀ : m ≠ [])
    (hm' : ∀ c ∈ m', c ∉ pat) (hm₀' : m' ≠ []) (h : before pat (a ++ m ++ s) = some (a ++ m ++ t)) :
    before pat (a ++ m' ++ s) = some (a ++ m' ++ t) := by
  rw [before_append_append hne hm hm₀] at h
  rw [before_append_append hne hm' hm₀']
  cases ha : before pat a with
  | some q =>
    rw [ha, Option.some_or, Option.some.injEq] at h
    obtain ⟨r, hr⟩ := before_eq_some_append ha
    have hlength := congrArg List.length hr
    have hpos := List.length_pos_of_ne_nil hm₀
    simp only [h, List.length_append] at hlength
    omega
  | none =>
    rw [ha, Option.none_or, Option.map_eq_some_iff] at h
    obtain ⟨t', ht', heq⟩ := h
    rw [List.append_cancel_left heq] at ht'
    rw [Option.none_or, ht', Option.map_some]

/-! ## Pieces -/

theorem takeWhile_dropWhile_append_cons (hc : c ∉ a) (s : List Char) :
    (a ++ c :: s).takeWhile (· != c) = a ∧ (a ++ c :: s).dropWhile (· != c) = c :: s := by
  have ha : ∀ d ∈ a, (d != c) = true := by
    intro d hd
    rw [bne_iff_ne]
    rintro rfl
    exact hc hd
  rw [List.takeWhile_append_of_pos ha, dropWhile_append_of_all ha]
  simp

/-- Two texts that are cut at the same character have the same parts. -/
theorem append_cons_inj (ha : c ∉ a) (hb : c ∉ b) : a ++ c :: s = b ++ c :: t ↔ a = b ∧ s = t := by
  constructor
  · intro h
    obtain ⟨htake, hdrop⟩ := takeWhile_dropWhile_append_cons ha s
    rw [h] at htake hdrop
    obtain ⟨htake', hdrop'⟩ := takeWhile_dropWhile_append_cons hb t
    refine ⟨htake.symm.trans htake', ?_⟩
    have htail := hdrop.symm.trans hdrop'
    exact (List.cons.inj htail).2
  · rintro ⟨rfl, rfl⟩
    rfl

theorem splitOnce_eq_some : splitOnce c s = some (a, b) ↔ s = a ++ c :: b ∧ c ∉ a := by
  constructor
  · intro h
    rw [splitOnce] at h
    by_cases hc : c ∈ s
    · obtain ⟨x, t, rfl, hx⟩ := List.eq_append_cons_of_mem hc
      obtain ⟨htake, hdrop⟩ := takeWhile_dropWhile_append_cons hx t
      rw [htake, hdrop] at h
      cases h
      exact ⟨rfl, hx⟩
    · have hdrop : s.dropWhile (· != c) = [] := by
        rw [List.dropWhile_eq_nil_iff]
        intro d hd
        rw [bne_iff_ne]
        rintro rfl
        exact hc hd
      rw [hdrop] at h
      cases h
  · rintro ⟨rfl, ha⟩
    obtain ⟨htake, hdrop⟩ := takeWhile_dropWhile_append_cons ha b
    rw [splitOnce, htake, hdrop]

/-- The first piece, and whether there are more. -/
theorem splitOn_eq_cons {l : List (List Char)} : s.splitOn c = a :: l ↔
    c ∉ a ∧ (s = a ∧ l = [] ∨ ∃ t, s = a ++ c :: t ∧ t.splitOn c = l) := by
  by_cases hc : c ∈ s
  · obtain ⟨x, t, rfl, hx⟩ := List.eq_append_cons_of_mem hc
    rw [List.splitOn_append_cons_self_of_not_mem hx, List.cons.injEq]
    constructor
    · rintro ⟨rfl, rfl⟩
      exact ⟨hx, .inr ⟨t, rfl, rfl⟩⟩
    · rintro ⟨ha, ⟨rfl, -⟩ | ⟨t', heq, rfl⟩⟩
      · exact absurd hc ha
      · obtain ⟨rfl, rfl⟩ := (append_cons_inj hx ha).mp heq
        exact ⟨rfl, rfl⟩
  · rw [List.splitOn_eq_singleton hc, List.cons.injEq]
    constructor
    · rintro ⟨rfl, rfl⟩
      exact ⟨hc, .inl ⟨rfl, rfl⟩⟩
    · rintro ⟨-, ⟨rfl, rfl⟩ | ⟨t, rfl, -⟩⟩
      · exact ⟨rfl, rfl⟩
      · exact absurd (List.mem_append_right a List.mem_cons_self) hc

/-! ## Lines -/

theorem splitLines_ne_nil (s : List Char) : splitLines s ≠ [] := by
  cases s with
  | nil => exact List.cons_ne_nil _ _
  | cons c s =>
    rw [splitLines]
    split
    · exact List.cons_ne_nil _ _
    · split
      · exact List.cons_ne_nil _ _
      · exact List.cons_ne_nil _ _

theorem splitLines_of_notMem (h : '\n' ∉ s) : splitLines s = [s] := by
  induction s with
  | nil => rfl
  | cons c s ih =>
    have hc : c ≠ '\n' := (List.ne_of_not_mem_cons h).symm
    rw [splitLines, if_neg hc, ih (List.not_mem_of_not_mem_cons h)]

theorem splitLines_append (h : '\n' ∉ a) (s : List Char) :
    splitLines (a ++ '\n' :: s) = a :: splitLines s := by
  induction a with
  | nil =>
    rw [List.nil_append, splitLines, if_pos rfl]
  | cons c a ih =>
    have hc : c ≠ '\n' := (List.ne_of_not_mem_cons h).symm
    rw [List.cons_append, splitLines, if_neg hc, ih (List.not_mem_of_not_mem_cons h)]

theorem notMem_of_mem_splitLines (h : t ∈ splitLines s) : '\n' ∉ t := by
  induction s generalizing t with
  | nil =>
    rw [splitLines, List.mem_singleton] at h
    rw [h]
    exact List.not_mem_nil
  | cons c s ih =>
    rw [splitLines] at h
    split at h
    · rcases List.mem_cons.mp h with rfl | h
      · exact List.not_mem_nil
      · exact ih h
    · next hc =>
      split at h
      · next hnil => exact absurd hnil (splitLines_ne_nil s)
      · next piece pieces hpieces =>
        rw [hpieces] at ih
        rcases List.mem_cons.mp h with rfl | h
        · exact List.not_mem_cons_of_ne_of_not_mem (Ne.symm hc) (ih List.mem_cons_self)
        · exact ih (List.mem_cons_of_mem piece h)

theorem splitLines_append_flatMap (ht : '\n' ∉ t) {after : List (List Char)}
    (hafter : ∀ l ∈ after, '\n' ∉ l) :
    splitLines (t ++ after.flatMap ('\n' :: ·)) = t :: after := by
  induction after generalizing t with
  | nil =>
    rw [List.flatMap_nil, List.append_nil]
    exact splitLines_of_notMem ht
  | cons l after ih =>
    obtain ⟨hl, hafter⟩ := List.forall_mem_cons.mp hafter
    rw [List.flatMap_cons, List.cons_append, splitLines_append ht, ih hl hafter]

theorem splitLines_injective : Function.Injective splitLines := by
  have hjoin : ∀ s, ['\n'].intercalate (splitLines s) = s := by
    intro s
    induction s with
    | nil => rfl
    | cons c s ih =>
      rw [splitLines]
      split
      · next hc =>
        rw [List.intercalate_cons_of_ne_nil (splitLines_ne_nil s), ih, hc]
        rfl
      · obtain ⟨piece, pieces, hpieces⟩ := List.exists_cons_of_ne_nil (splitLines_ne_nil s)
        rw [hpieces] at ih ⊢
        rw [← ih]
        cases pieces with
        | nil => rw [List.intercalate_singleton, List.intercalate_singleton]
        | cons next pieces => rw [List.intercalate_cons_cons, List.intercalate_cons_cons]; rfl
  exact Function.LeftInverse.injective hjoin

/-- The lines before one, that line and the lines behind it. -/
theorem splitLines_eq_append {before after : List (List Char)} :
    splitLines s = before ++ t :: after ↔
      s = before.flatMap (· ++ ['\n']) ++ t ++ after.flatMap ('\n' :: ·) ∧
        ∀ l ∈ before ++ t :: after, '\n' ∉ l := by
  have hsplit : (∀ l ∈ before ++ t :: after, '\n' ∉ l) →
      splitLines (before.flatMap (· ++ ['\n']) ++ t ++ after.flatMap ('\n' :: ·)) =
        before ++ t :: after := by
    intro hlines
    induction before with
    | nil =>
      obtain ⟨ht, hafter⟩ := List.forall_mem_cons.mp hlines
      exact splitLines_append_flatMap ht hafter
    | cons l before ih =>
      obtain ⟨hl, hlines⟩ := List.forall_mem_cons.mp hlines
      simp only [List.flatMap_cons, List.append_assoc, List.cons_append, List.nil_append] at ih ⊢
      rw [splitLines_append hl, ih hlines]
  constructor
  · intro h
    have hlines : ∀ l ∈ before ++ t :: after, '\n' ∉ l := fun l hl =>
      notMem_of_mem_splitLines (h ▸ hl)
    exact ⟨splitLines_injective (h.trans (hsplit hlines).symm), hlines⟩
  · rintro ⟨rfl, hlines⟩
    exact hsplit hlines

/-- To a search that trims the lines, the ends of the lines do not matter. -/
theorem findSome?_lines {α : Type} {f : List Char → Option α} (hnil : f [] = none)
    (s : List Char) : (lines s).findSome? (fun line => f (trim line)) =
      (splitLines s).findSome? fun line => f (trim line) := by
  obtain ⟨ended, last, heq⟩ :=
    (List.eq_nil_or_concat' (splitLines s)).resolve_left (splitLines_ne_nil s)
  have hended : (fun line => f (trim line)) ∘ (fun line : List Char =>
      if line.getLast? = some '\r' then line.dropLast else line) = fun line => f (trim line) := by
    funext line
    dsimp only [Function.comp_apply]
    split
    · next hlast =>
      obtain ⟨line', rfl⟩ := List.getLast?_eq_some_iff.mp hlast
      have hreturn : ∀ c ∈ ['\r'], isWhitespace c = true := List.forall_mem_singleton.mpr rfl
      rw [List.dropLast_concat, trim, trim, trimMatches_append_right hreturn]
    · rfl
  have htrim : trim [] = [] := rfl
  rw [lines, heq, List.dropLast_concat, List.getLast?_concat, List.findSome?_append,
    List.findSome?_append, List.findSome?_map, hended]
  congr 1
  by_cases hlast : last = []
  · simp [hlast, htrim, hnil]
  · simp [hlast]

end GreaterWill.Text
