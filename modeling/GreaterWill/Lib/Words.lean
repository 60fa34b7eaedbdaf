import GreaterWill.Lib.TextLemmas
import Mathlib.Data.List.Chain

/-!
# Words

The maximal runs of characters of a kind, and texts joined by a separator.
-/

namespace GreaterWill.Text

/-- The texts with `c` between them. -/
def joinWith (c : Char) : List (List Char) → List Char
  | [] => []
  | w :: ws => w ++ ws.flatMap (c :: ·)

/-- The maximal runs of characters that meet `p`. -/
def words (p : Char → Bool) (s : List Char) : List (List Char) :=
  (s.splitOnP fun c => !p c).filter (· ≠ [])

variable {p : Char → Bool} {c : Char} {s t w : List Char} {ws : List (List Char)}

/-! ## Joining -/

theorem joinWith_append (c : Char) (above : List (List Char)) (line : List Char)
    (below : List (List Char)) : joinWith c (above ++ line :: below) =
      above.flatMap (· ++ [c]) ++ line ++ below.flatMap (c :: ·) := by
  have hflat : ∀ above : List (List Char), (above ++ line :: below).flatMap (c :: ·) =
      c :: (above.flatMap (· ++ [c]) ++ line ++ below.flatMap (c :: ·)) := by
    intro above
    induction above with
    | nil => rfl
    | cons l above ih =>
      rw [List.cons_append, List.flatMap_cons, ih]
      simp
  cases above with
  | nil => rfl
  | cons l above =>
    rw [List.cons_append, joinWith, hflat]
    simp

/-- A word more. -/
theorem joinWith_concat (hne : ws ≠ []) (w : List Char) :
    joinWith c (ws ++ [w]) = joinWith c ws ++ c :: w := by
  obtain ⟨w', ws, rfl⟩ := List.exists_cons_of_ne_nil hne
  simp [joinWith]

/-- A longer last word. -/
theorem joinWith_concat_append (ws : List (List Char)) (w t : List Char) :
    joinWith c (ws ++ [w ++ t]) = joinWith c (ws ++ [w]) ++ t := by
  rw [joinWith_append, joinWith_append]
  simp

/-- Words do not begin with the separator. -/
theorem head?_joinWith (h : ∀ w ∈ ws, w ≠ [] ∧ c ∉ w) : (joinWith c ws).head? ≠ some c := by
  cases ws with
  | nil => exact fun heq => absurd heq (by simp [joinWith])
  | cons w ws =>
    obtain ⟨hne, hc⟩ := h w List.mem_cons_self
    obtain ⟨d, w, rfl⟩ := List.exists_cons_of_ne_nil hne
    intro heq
    cases heq
    exact hc List.mem_cons_self

/-- Nor do they end with it. -/
theorem getLast?_joinWith (h : ∀ w ∈ ws, w ≠ [] ∧ c ∉ w) :
    (joinWith c ws).getLast? ≠ some c := by
  rcases List.eq_nil_or_concat' ws with rfl | ⟨above, w, rfl⟩
  · exact fun heq => absurd heq (by simp [joinWith])
  · obtain ⟨hne, hc⟩ := h w (List.mem_append_right above List.mem_cons_self)
    obtain ⟨w, d, rfl⟩ := (List.eq_nil_or_concat' w).resolve_left hne
    rw [joinWith_append, List.flatMap_nil, List.append_nil, ← List.append_assoc,
      List.getLast?_concat]
    intro heq
    cases heq
    exact hc (List.mem_append_right w List.mem_cons_self)

/-- Between words, no two separators stand next to each other. -/
theorem isChain_joinWith (h : ∀ w ∈ ws, w ≠ [] ∧ c ∉ w) :
    (joinWith c ws).IsChain fun a b => a ≠ c ∨ b ≠ c := by
  have hword : ∀ w : List Char, c ∉ w → w.IsChain fun a b => a ≠ c ∨ b ≠ c := by
    intro w hc
    refine (List.pairwise_of_forall_mem_list fun a ha b _ => ?_).isChain
    left
    rintro rfl
    exact hc ha
  induction ws using List.reverseRecOn with
  | nil => exact List.isChain_nil
  | append_singleton ws w ih =>
    obtain ⟨hws, hw⟩ := List.forall_mem_append.mp h
    obtain ⟨-, hc⟩ := hw w List.mem_cons_self
    by_cases hne : ws = []
    · subst hne
      rw [List.nil_append, joinWith, List.flatMap_nil, List.append_nil]
      exact hword w hc
    · rw [joinWith_concat hne, List.isChain_append, List.isChain_cons]
      refine ⟨ih hws, ⟨fun y hy => .inr ?_, hword w hc⟩, fun x hx y _ => .inl ?_⟩
      · rintro rfl
        exact hc (List.mem_of_mem_head? hy)
      · rintro rfl
        exact getLast?_joinWith hws hx

theorem mem_joinWith {d : Char} (h : d ∈ joinWith c ws) : d = c ∨ ∃ w ∈ ws, d ∈ w := by
  cases ws with
  | nil => cases h
  | cons w ws =>
    rcases List.mem_append.mp h with h | h
    · exact .inr ⟨w, List.mem_cons_self, h⟩
    · obtain ⟨w', hw', h⟩ := List.mem_flatMap.mp h
      rcases List.mem_cons.mp h with rfl | h
      · exact .inl rfl
      · exact .inr ⟨w', List.mem_cons_of_mem w hw', h⟩

/-! ## Words -/

theorem word_of_mem_words (h : w ∈ words p s) : w ≠ [] ∧ ∀ c ∈ w, p c = true ∧ c ∈ s := by
  obtain ⟨hmem, hne⟩ := List.mem_filter.mp h
  refine ⟨of_decide_eq_true hne, ?_⟩
  clear h hne
  induction s generalizing w with
  | nil =>
    cases List.mem_singleton.mp hmem
    exact fun c hc => absurd hc List.not_mem_nil
  | cons d s ih =>
    have htail : ∀ w ∈ s.splitOnP fun c => !p c, ∀ c ∈ w, p c = true ∧ c ∈ d :: s :=
      fun w hw c hc => ⟨(ih hw c hc).1, List.mem_cons_of_mem d (ih hw c hc).2⟩
    rw [List.splitOnP_cons_eq_if_modifyHead] at hmem
    split at hmem
    · rcases List.mem_cons.mp hmem with rfl | hmem
      · exact fun c hc => absurd hc List.not_mem_nil
      · exact htail w hmem
    · next hd =>
      have hd' : p d = true := by simpa using hd
      obtain ⟨w', ws', hws⟩ := List.exists_cons_of_ne_nil (List.splitOnP_ne_nil (fun c => !p c) s)
      rw [hws] at hmem htail
      rcases List.mem_cons.mp hmem with rfl | hmem
      · intro c hc
        rcases List.mem_cons.mp hc with rfl | hc
        · exact ⟨hd', List.mem_cons_self⟩
        · exact htail w' List.mem_cons_self c hc
      · exact htail w (List.mem_cons_of_mem w' hmem)

theorem splitOnP_word (hw : ∀ c ∈ w, p c = true) : (w.splitOnP fun c => !p c) = [w] := by
  apply List.splitOnP_eq_singleton
  intro c hc
  rw [hw c hc]
  rfl

theorem words_concat_of_neg (hc : p c = false) (s : List Char) :
    words p (s ++ [c]) = words p s := by
  rw [words, List.splitOnP_append_cons s [] (by rw [hc]; rfl), List.filter_append]
  exact List.append_nil _

/-- Behind a separator or at the beginning, a word is one more. -/
theorem words_append (hs : s = [] ∨ ∃ t c, s = t ++ [c] ∧ p c = false)
    (hw : ∀ c ∈ w, p c = true) (hne : w ≠ []) : words p (s ++ w) = words p s ++ [w] := by
  have hfilter : [w].filter (· ≠ []) = [w] := by simp [hne]
  rcases hs with rfl | ⟨t, c, rfl, hc⟩
  · rw [List.nil_append, words, splitOnP_word hw]
    exact hfilter
  · rw [words_concat_of_neg hc, List.append_assoc, List.singleton_append, words,
      List.splitOnP_append_cons t w (by rw [hc]; rfl), splitOnP_word hw, List.filter_append,
      hfilter]
    rfl

/-- A word that goes on. -/
theorem words_concat_word {d : Char} (hc : p c = true) (hd : p d = true) (s : List Char) :
    ∃ ws w, words p (s ++ [c]) = ws ++ [w] ∧ words p (s ++ [c] ++ [d]) = ws ++ [w ++ [d]] := by
  have hsplit : (s ++ [c]).rdropWhile p ++ (s ++ [c]).rtakeWhile p = s ++ [c] :=
    List.rdropWhile_append_rtakeWhile
  have hword : ∀ a ∈ (s ++ [c]).rtakeWhile p, p a = true := fun a ha =>
    List.mem_rtakeWhile_imp ha
  have hne : (s ++ [c]).rtakeWhile p ≠ [] := by
    rw [List.rtakeWhile_concat_pos p s c hc]
    simp
  have hbefore : (s ++ [c]).rdropWhile p = [] ∨
      ∃ t a, (s ++ [c]).rdropWhile p = t ++ [a] ∧ p a = false := by
    refine or_iff_not_imp_left.mpr fun hnil => ?_
    refine ⟨_, _, (List.dropLast_append_getLast hnil).symm, ?_⟩
    exact (Bool.not_eq_true _).mp (List.rdropWhile_last_not p _ hnil)
  refine ⟨words p ((s ++ [c]).rdropWhile p), (s ++ [c]).rtakeWhile p, ?_, ?_⟩
  · conv_lhs => rw [← hsplit]
    exact words_append hbefore hword hne
  · conv_lhs => rw [← hsplit, List.append_assoc]
    refine words_append hbefore ?_ (by simp)
    intro a ha
    rcases List.mem_append.mp ha with ha | ha
    · exact hword a ha
    · rw [List.mem_singleton.mp ha]
      exact hd

end GreaterWill.Text
