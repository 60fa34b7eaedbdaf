import GreaterWill.Lib.Run
import Mathlib.Data.List.Infix

/-!
# A file that many writers append to

Each writer appends one record, piece by piece, while it holds the lock of the file. A writer that
is cut off has written a beginning of its record and releases the lock; one that does not get the
lock writes all the same, between the pieces of the others.

Where every writer gets the lock, the file is made of the records in the order of the lock, of each
cut one a beginning (`appended_of_run`). If a record is a line, a cut costs two records at most, its
own and the one that is appended to what it left: all others are lines of the file
(`Appended.lines`).
-/

namespace GreaterWill

variable {ι α : Type}

/-- The file and its writers, with the records of type `ι`. -/
structure SharedFile (ι α : Type) where
  content : List α := []
  /-- Writers that have not got the lock yet. -/
  waiting : List ι := []
  /-- The holder of the lock, and what it has still to write. -/
  holder : Option (ι × List α) := none
  /-- What the writers without the lock have still to write. -/
  unlocked : List (List α) := []
  /-- The records whose writers got the lock, in this order. -/
  order : List ι := []
  /-- How many of them were cut off. -/
  cuts : Nat := 0

inductive FileEvent (ι : Type) where
  /-- A writer arrives. -/
  | append (record : ι)
  /-- One of the waiting writers gets the lock. -/
  | lock (i : Nat)
  /-- The lock fails for one of them. -/
  | lockFails (i : Nat)
  /-- A writer dies before it gets the lock. -/
  | lost (i : Nat)
  /-- The holder writes some symbols. -/
  | write (n : Nat)
  /-- The holder has written its record. -/
  | release
  /-- The holder dies, or a write fails. -/
  | cut
  /-- A writer without the lock writes some symbols. -/
  | writeUnlocked (i n : Nat)

/-- The event gives nobody leave to write without the lock. -/
def FileEvent.Locked : FileEvent ι → Prop
  | .lockFails _ => False
  | _ => True

namespace SharedFile
variable (text : ι → List α)

/-- One event, if it can happen. -/
def step (f : SharedFile ι α) : FileEvent ι → Option (SharedFile ι α)
  | .append record => some { f with waiting := f.waiting ++ [record] }
  | .lock i =>
    if f.holder.isSome then none
    else
      f.waiting[i]?.map fun record =>
        { f with
          waiting := f.waiting.eraseIdx i
          holder := some (record, text record)
          order := f.order ++ [record] }
  | .lockFails i =>
    f.waiting[i]?.map fun record =>
      { f with waiting := f.waiting.eraseIdx i, unlocked := f.unlocked ++ [text record] }
  | .lost i => some { f with waiting := f.waiting.eraseIdx i }
  | .write n =>
    f.holder.map fun held =>
      { f with
        content := f.content ++ held.2.take n
        holder := some (held.1, held.2.drop n) }
  | .release =>
    match f.holder with
    | some (_, []) => some { f with holder := none }
    | _ => none
  | .cut =>
    match f.holder with
    | some (_, _ :: _) => some { f with holder := none, cuts := f.cuts + 1 }
    | _ => none
  | .writeUnlocked i n =>
    f.unlocked[i]?.map fun rest =>
      { f with content := f.content ++ rest.take n, unlocked := f.unlocked.set i (rest.drop n) }

/-- The records, what they have become in the file, and how many of them are not whole. -/
inductive Appended : List ι → List α → Nat → Prop where
  | nil : Appended [] [] 0
  | whole {is : List ι} {s : List α} {k : Nat} (h : Appended is s k) (i : ι) :
      Appended (is ++ [i]) (s ++ text i) k
  | part {is : List ι} {s p : List α} {k : Nat} (h : Appended is s k) {i : ι} (hp : p <+: text i)
      (hne : p ≠ text i) : Appended (is ++ [i]) (s ++ p) (k + 1)

variable {text} {f f' : SharedFile ι α} {es : List (FileEvent ι)}

/-- Nobody writes without the lock, and the records are in the file in the order of the lock. -/
structure Inv (text : ι → List α) (f : SharedFile ι α) : Prop where
  unlocked : f.unlocked = []
  idle : f.holder = none → Appended text f.order f.content f.cuts
  held : ∀ i rest, f.holder = some (i, rest) → ∃ is s p, f.order = is ++ [i] ∧
    f.content = s ++ p ∧ text i = p ++ rest ∧ Appended text is s f.cuts

namespace Inv

theorem init : (({} : SharedFile ι α)).Inv text :=
  ⟨rfl, fun _ => .nil, fun _ _ h => nomatch h⟩

/-- Only the content, the holder, the order and the cuts matter. -/
theorem congr (H : f.Inv text) (hunlocked : f'.unlocked = f.unlocked)
    (hcontent : f'.content = f.content) (hholder : f'.holder = f.holder)
    (horder : f'.order = f.order) (hcuts : f'.cuts = f.cuts) : f'.Inv text := by
  constructor
  · rw [hunlocked]
    exact H.unlocked
  · rw [hholder, horder, hcontent, hcuts]
    exact H.idle
  · rw [hholder, horder, hcontent, hcuts]
    exact H.held

theorem step {e : FileEvent ι} (H : f.Inv text) (hstep : f.step text e = some f')
    (he : e.Locked) : f'.Inv text := by
  cases e with
  | append record =>
    cases hstep
    exact H.congr rfl rfl rfl rfl rfl
  | lock i =>
    rw [SharedFile.step] at hstep
    split at hstep
    · cases hstep
    · next hfree =>
      obtain ⟨record, -, rfl⟩ := Option.map_eq_some_iff.mp hstep
      have hidle := H.idle (Option.not_isSome_iff_eq_none.mp hfree)
      constructor
      · exact H.unlocked
      · intro hnone
        cases hnone
      · intro i rest hheld
        cases hheld
        exact ⟨f.order, f.content, [], rfl, (List.append_nil _).symm, rfl, hidle⟩
  | lockFails i => exact he.elim
  | lost i =>
    cases hstep
    exact H.congr rfl rfl rfl rfl rfl
  | write n =>
    obtain ⟨⟨record, rest⟩, hholder, rfl⟩ := Option.map_eq_some_iff.mp hstep
    obtain ⟨is, s, p, horder, hcontent, htext, happended⟩ := H.held record rest hholder
    constructor
    · exact H.unlocked
    · intro hnone
      cases hnone
    · intro i rest' hheld
      cases hheld
      refine ⟨is, s, p ++ rest.take n, horder, ?_, ?_, happended⟩
      · rw [hcontent, List.append_assoc]
      · rw [htext, List.append_assoc, List.take_append_drop]
  | release =>
    rw [SharedFile.step] at hstep
    split at hstep
    · next record hholder =>
      cases hstep
      obtain ⟨is, s, p, horder, hcontent, htext, happended⟩ := H.held record [] hholder
      refine ⟨H.unlocked, fun _ => ?_, fun _ _ h => nomatch h⟩
      rw [List.append_nil] at htext
      rw [horder, hcontent, ← htext]
      exact happended.whole record
    · cases hstep
  | cut =>
    rw [SharedFile.step] at hstep
    split at hstep
    · next record a rest hholder =>
      cases hstep
      obtain ⟨is, s, p, horder, hcontent, htext, happended⟩ := H.held record (a :: rest) hholder
      refine ⟨H.unlocked, fun _ => ?_, fun _ _ h => nomatch h⟩
      rw [horder, hcontent]
      apply happended.part ⟨a :: rest, htext.symm⟩
      intro hall
      rw [← hall] at htext
      exact absurd (List.self_eq_append_right.mp htext) (List.cons_ne_nil a rest)
    · cases hstep
  | writeUnlocked i n =>
    rw [SharedFile.step, H.unlocked] at hstep
    cases hstep

end Inv

/-- The records of a run with locks, whoever holds the lock. -/
theorem appended_of_run (hrun : exec (SharedFile.step text) {} es = some f)
    (hlocked : ∀ e ∈ es, e.Locked) : ∃ k, Appended text f.order f.content k ∧
      k ≤ f.cuts + (if f.holder.isSome then 1 else 0) := by
  have H := exec_invariant (I := fun f => f.Inv text)
    (fun _ _ _ hstep he H => H.step hstep he) hrun (Along.of_forall_mem hlocked) .init
  cases hholder : f.holder with
  | none => exact ⟨f.cuts, H.idle hholder, Nat.le_add_right _ _⟩
  | some held =>
    obtain ⟨i, rest⟩ := held
    obtain ⟨is, s, p, horder, hcontent, htext, happended⟩ := H.held i rest hholder
    rw [horder, hcontent]
    by_cases hrest : rest = []
    · rw [hrest, List.append_nil] at htext
      rw [← htext]
      exact ⟨f.cuts, happended.whole i, Nat.le_add_right _ _⟩
    · refine ⟨f.cuts + 1, happended.part ⟨rest, htext.symm⟩ ?_, Nat.le_refl _⟩
      intro hall
      rw [← hall] at htext
      exact hrest (List.self_eq_append_right.mp htext)

/-! ## Lines -/

/-- The file by its lines, and the records that are lines of it. -/
structure Lines (body : ι → List α) (lf : α) (is : List ι) (s : List α) (k : Nat) where
  kept : List ι
  lines : List (List α)
  /-- What follows the last line feed. -/
  last : List α
  content : s = lines.flatMap (· ++ [lf]) ++ last
  isLine : ∀ l ∈ lines ++ [last], lf ∉ l
  sublist : kept.Sublist is
  shown : (kept.map body).Sublist lines
  lost : is.length + (if last = [] then 0 else 1) ≤ kept.length + 2 * k
  others : lines.length + (if last = [] then 0 else 1) ≤ kept.length + k

section Lines
variable {body : ι → List α} {lf : α} {is : List ι} {s p : List α} {k : Nat}

def Lines.nil : Lines body lf ([] : List ι) [] 0 where
  kept := []
  lines := []
  last := []
  content := rfl
  isLine l hl := by
    cases List.mem_singleton.mp hl
    exact List.not_mem_nil
  sublist := .slnil
  shown := .slnil
  lost := Nat.le_refl _
  others := Nat.le_refl _

/-- A whole record ends the last line, which is the record itself if nothing was left there. -/
theorem Lines.whole (L : Lines body lf is s k) {i : ι} (hi : lf ∉ body i) :
    Nonempty (Lines body lf (is ++ [i]) (s ++ (body i ++ [lf])) k) := by
  have hcontent : s ++ (body i ++ [lf]) =
      (L.lines ++ [L.last ++ body i]).flatMap (· ++ [lf]) ++ [] := by
    simp [L.content]
  have hline : ∀ l ∈ (L.lines ++ [L.last ++ body i]) ++ [[]], lf ∉ l := by
    have hlast := L.isLine L.last (by simp)
    intro l hl
    simp only [List.mem_append, List.mem_singleton] at hl
    rcases hl with (hl | rfl) | rfl
    · exact L.isLine l (by simp [hl])
    · simp [hlast, hi]
    · exact List.not_mem_nil
  have hlost := L.lost
  have hothers := L.others
  by_cases hlast : L.last = []
  · rw [if_pos hlast] at hlost hothers
    refine ⟨⟨L.kept ++ [i], _, [], hcontent, hline, L.sublist.append (.refl _), ?_, ?_, ?_⟩⟩
    · rw [List.map_append, hlast]
      exact L.shown.append (.refl _)
    · simp
      omega
    · simp
      omega
  · rw [if_neg hlast] at hlost hothers
    refine ⟨⟨L.kept, _, [], hcontent, hline, L.sublist.trans (List.sublist_append_left _ _), ?_,
      ?_, ?_⟩⟩
    · exact L.shown.trans (List.sublist_append_left _ _)
    · simp
      omega
    · simp
      omega

/-- A beginning of a record stays at the end. -/
theorem Lines.part (L : Lines body lf is s k) {i : ι} (hi : lf ∉ body i) (hp : p <+: body i) :
    Nonempty (Lines body lf (is ++ [i]) (s ++ p) (k + 1)) := by
  have hlost := L.lost
  have hothers := L.others
  refine ⟨⟨L.kept, L.lines, L.last ++ p, ?_, ?_, L.sublist.trans (List.sublist_append_left _ _),
    L.shown, ?_, ?_⟩⟩
  · rw [← List.append_assoc, ← L.content]
  · have hlast := L.isLine L.last (by simp)
    have hpart : lf ∉ p := fun hmem => hi (hp.subset hmem)
    intro l hl
    rcases List.mem_append.mp hl with hl | hl
    · exact L.isLine l (List.mem_append_left _ hl)
    · cases List.mem_singleton.mp hl
      simp [hlast, hpart]
  · rw [List.length_append, List.length_singleton]
    split <;> omega
  · split
    · omega
    · omega

/-- A cut costs its own record and the next one, and leaves one line that is no record. -/
theorem Appended.lines (htext : ∀ i, text i = body i ++ [lf]) (hbody : ∀ i, lf ∉ body i)
    (h : Appended text is s k) : Nonempty (Lines body lf is s k) := by
  induction h with
  | nil => exact ⟨.nil⟩
  | whole h i ih =>
    obtain ⟨L⟩ := ih
    rw [htext]
    exact L.whole (hbody i)
  | part h hp hne ih =>
    obtain ⟨L⟩ := ih
    rw [htext] at hp hne
    rcases List.prefix_concat_iff.mp hp with hall | hp
    · exact absurd hall hne
    · exact L.part (hbody _) hp

/-- The lines of the file. -/
theorem Lines.splitOn [BEq α] [LawfulBEq α] (L : Lines body lf is s k) :
    s.splitOn lf = L.lines ++ [L.last] := by
  have hsplit : ∀ (lines : List (List α)) (last : List α), (∀ l ∈ lines ++ [last], lf ∉ l) →
      (lines.flatMap (· ++ [lf]) ++ last).splitOn lf = lines ++ [last] := by
    intro lines last hline
    induction lines with
    | nil => exact List.splitOn_eq_singleton (hline last List.mem_cons_self)
    | cons l lines ih =>
      obtain ⟨hl, hlines⟩ := List.forall_mem_cons.mp hline
      rw [List.flatMap_cons, List.append_assoc, List.append_assoc, List.singleton_append,
        List.splitOn_append_cons_self_of_not_mem hl, ih hlines]
      rfl
  exact (congrArg (·.splitOn lf) L.content).trans (hsplit L.lines L.last L.isLine)

end Lines

end SharedFile

/-! ## A part of a file -/

section
variable [BEq α] [LawfulBEq α] {c : α} {m s : List α}

theorem splitOn_append {u b : List α} {init : List (List α)} (h : u.splitOn c = init ++ [b]) (v : List α) :
    (u ++ v).splitOn c = init ++ (b ++ v).splitOn c := by
  by_cases hu : c ∈ u
  · obtain ⟨a, u, rfl, ha⟩ := List.eq_append_cons_of_mem hu
    rw [List.splitOn_append_cons_self_of_not_mem ha] at h
    cases init with
    | nil =>
      rw [List.nil_append, List.cons.injEq] at h
      exact absurd h.2 (List.splitOn_ne_nil c u)
    | cons first init =>
      rw [List.cons_append, List.cons.injEq] at h
      rw [List.append_assoc, List.cons_append, List.splitOn_append_cons_self_of_not_mem ha,
        splitOn_append h.2 v, h.1]
      rfl
  · rw [List.splitOn_eq_singleton hu] at h
    obtain ⟨rfl, rfl⟩ : init = [] ∧ b = u := by
      rcases List.append_eq_singleton_iff.mp h.symm with ⟨hinit, hb⟩ | ⟨-, hb⟩
      · exact ⟨hinit, List.singleton_injective hb⟩
      · cases hb
    rfl
termination_by u.length
decreasing_by
  subst_vars
  simp
  omega

/-- The lines of a part of a file are lines of the file, but for the first and the last. -/
theorem exists_infix_splitOn (h : m <:+: s) : ∃ first mid last, m.splitOn c = first ++ mid ++ last ∧
    first.length ≤ 1 ∧ last.length ≤ 1 ∧ mid <:+: s.splitOn c := by
  obtain ⟨x, y, rfl⟩ := h
  by_cases hm : c ∈ m
  · obtain ⟨a, m, rfl, ha⟩ := List.eq_append_cons_of_mem hm
    obtain ⟨mid, b, hsplit⟩ :=
      (List.eq_nil_or_concat' (m.splitOn c)).resolve_left (List.splitOn_ne_nil c m)
    refine ⟨[a], mid, [b], ?_, Nat.le_refl _, Nat.le_refl _, ?_⟩
    · rw [List.splitOn_append_cons_self_of_not_mem ha, hsplit]
      rfl
    · refine ⟨(x ++ a).splitOn c, (b ++ y).splitOn c, ?_⟩
      rw [List.append_assoc, ← splitOn_append hsplit y, ← List.splitOn_append_cons_self]
      simp
  · refine ⟨[m], [], [], ?_, Nat.le_refl _, Nat.zero_le _, List.nil_infix⟩
    exact List.splitOn_eq_singleton hm

end

end GreaterWill
