import GreaterWill.Lib.Map
import GreaterWill.Lib.Worklist
import Mathlib.Data.Finset.Dedup

/-!
# Process trees

`cleanup/process.rs`: the descendants of a process in a snapshot of the process table, and the
functions that kill a process tree.
-/

namespace GreaterWill

/-- A snapshot of the process table: the parent of each process, if it has one. -/
structure System where
  processes : Map UInt32 (Option UInt32)

namespace System
variable (sys : System)

/-- One process of the table is noted under its parent. -/
def addChild (childrenMap : Map UInt32 (List UInt32)) (process : Sigma fun _ : UInt32 =>
    Option UInt32) : Map UInt32 (List UInt32) :=
  match process.2 with
  | some parent =>
    childrenMap.insert parent ((childrenMap.lookup parent).getD [] ++ [process.1])
  | none => childrenMap

/-- The parent to children index. -/
def childrenMap : Map UInt32 (List UInt32) := sys.processes.entries.foldl addChild ∅

/-- The children of a process. -/
def children (parent : UInt32) : List UInt32 := (sys.childrenMap.lookup parent).getD []

/-- `child` has the parent `parent`. -/
def IsChild (parent child : UInt32) : Prop := sys.processes.lookup child = some (some parent)

end System

theorem mem_lookup_foldl_addChild (entries : List (Sigma fun _ : UInt32 => Option UInt32))
    (m : Map UInt32 (List UInt32)) (parent child : UInt32) :
    child ∈ ((entries.foldl System.addChild m).lookup parent).getD [] ↔
      child ∈ (m.lookup parent).getD [] ∨ ⟨child, some parent⟩ ∈ entries := by
  induction entries generalizing m with
  | nil => simp
  | cons process entries ih =>
    rw [List.foldl_cons, ih, List.mem_cons, ← or_assoc]
    apply or_congr_left
    obtain ⟨pid, _ | parent'⟩ := process
    · simp [System.addChild]
    · rw [System.addChild, AList.lookup_insert_eq_ite]
      by_cases h : parent = parent'
      · subst h
        simp
      · simp [h]

namespace System
variable {sys : System} {parent child root pid : UInt32}

theorem mem_children : child ∈ sys.children parent ↔ sys.IsChild parent child := by
  rw [children, childrenMap, mem_lookup_foldl_addChild, AList.mem_entries_iff, IsChild]
  simp

/-- The process table as a graph. -/
def tree (sys : System) : FiniteGraph UInt32 where
  next := sys.children
  nodes := sys.processes.keys.toFinset
  mem_nodes parent child h := by
    rw [List.mem_toFinset, ← AList.mem_keys, ← AList.lookup_isSome, mem_children.mp h]
    rfl

end System

/-- `collect_descendants`. -/
def collectDescendants (sys : System) (rootPid : UInt32) : List UInt32 :=
  (Worklist.search sys.tree rootPid).result

/-! ## Killing process trees -/

/-- `i32::MAX`. -/
def I32_MAX : UInt32 := 2147483647

/-- `is_pid_alive`, where `probe` is the answer to signal 0. -/
def isPidAlive (probe : UInt32 → Bool) (pid : UInt32) : Bool :=
  if I32_MAX < pid then false else probe pid

/-- What `kill_gw_owned_claude_processes` finds of a `gw-*` session. -/
structure GwSession where
  stale : Bool
  panePid : Option UInt32
  /-- The answer to signal 0 when the session's turn comes. -/
  probe : UInt32 → Bool

/-- The pids of a session that get a signal. -/
def GwSession.owned (sys : System) (session : GwSession) : List UInt32 :=
  if session.stale then
    match session.panePid with
    | some panePid =>
      if isPidAlive session.probe panePid then
        (collectDescendants sys panePid ++ [panePid]).filter (· ≤ I32_MAX)
      else []
    | none => []
  else []

section
variable {sys : System} {root pid : UInt32} {call : KillCall} {signal : Signal}

end

/-! Two processes that are each other's parent, one that is its own, and a child of one of them. -/
example : collectDescendants ⟨List.toAList [⟨1, some 2⟩, ⟨2, some 1⟩, ⟨3, some 3⟩, ⟨4, some 2⟩]⟩ 1 =
    [2, 4] := by decide +kernel

end GreaterWill
