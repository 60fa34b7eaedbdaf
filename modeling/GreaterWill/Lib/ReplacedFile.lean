import GreaterWill.Lib.Run
import Mathlib.Data.List.Perm.Basic
import Mathlib.Logic.Function.Basic

/-!
# Files that are replaced as a whole

A writer creates its tmp file, writes its symbols piece by piece and renames the tmp file onto its
target. Any number of writers are at work at once; each of them may stop anywhere, and all of them
stop when the process is killed, which may happen many times.

The files are names of inodes: a writer goes on with the inode it has opened, also when another
writer truncates it or gives it another name. So two writers with one tmp file can spoil the target.
As long as a writer only starts while no other one is at work with its tmp file, every target has at
every moment the symbols of the last write that was renamed onto it (`content_of_run`).
-/

namespace GreaterWill

/-- The writes of type `ω`: the tmp file of each, its target and what is written. -/
structure Replacing (ω F α : Type) where
  tmp : ω → F
  target : ω → F
  text : ω → List α
  tmp_ne_target : ∀ w w', tmp w ≠ target w'

/-- A writer at work, with the inode it has opened and how much it has written. -/
structure Writer (ω : Type) where
  write : ω
  inode : Nat
  offset : Nat

/-- The files and the writers at work. -/
structure ReplacedFiles (ω F α : Type) where
  names : F → Option Nat
  data : Nat → List α
  /-- Inodes from here on are new. -/
  next : Nat
  writers : List (Writer ω)

inductive ReplaceEvent (ω : Type) where
  /-- A writer creates its tmp file, or truncates the one that is there. -/
  | create (w : ω)
  /-- A writer writes some symbols. -/
  | write (i n : Nat)
  /-- A writer that has written everything renames its tmp file. -/
  | rename (i : Nat)
  /-- A writer gives up, since an operation fails; it may remove its tmp file. -/
  | stop (i : Nat) (removes : Bool)
  /-- The process dies. -/
  | kill

/-- The text with a piece written over it; a gap before the piece is filled up. -/
def overwrite {α : Type} [Inhabited α] (s : List α) (offset : Nat) (piece : List α) : List α :=
  (s ++ List.replicate (offset - s.length) default).take offset ++ piece ++
    s.drop (offset + piece.length)

theorem overwrite_length {α : Type} [Inhabited α] (s piece : List α) :
    overwrite s s.length piece = s ++ piece := by
  rw [overwrite, Nat.sub_self, List.replicate_zero, List.append_nil, List.take_length,
    List.drop_eq_nil_of_le (Nat.le_add_right _ _), List.append_nil]

variable {ω F α : Type}

namespace ReplacedFiles

/-- What the file holds. -/
def content (s : ReplacedFiles ω F α) (f : F) : Option (List α) := (s.names f).map s.data

theorem content_congr {s s' : ReplacedFiles ω F α} {f : F} (hnames : s'.names f = s.names f)
    (hdata : ∀ inode, s.names f = some inode → s'.data inode = s.data inode) :
    s'.content f = s.content f := by
  rw [content, content, hnames]
  cases h : s.names f with
  | none => rfl
  | some inode => rw [Option.map_some, Option.map_some, hdata inode h]

variable (r : Replacing ω F α)

/-- No writer at work has the tmp file of the one that starts. -/
def Apart (s : ReplacedFiles ω F α) : ReplaceEvent ω → Prop
  | .create w => ∀ a ∈ s.writers, r.tmp a.write ≠ r.tmp w
  | _ => True

theorem apart_create {r : Replacing ω F α} {s : ReplacedFiles ω F α} (h : s.writers = []) (w : ω) :
    s.Apart r (.create w) := by
  intro a ha
  rw [h] at ha
  cases ha

variable [DecidableEq F]

/-- One event, if it can happen. -/
def step [Inhabited α] (s : ReplacedFiles ω F α) : ReplaceEvent ω → Option (ReplacedFiles ω F α)
  | .create w =>
    match s.names (r.tmp w) with
    | some inode =>
      some { s with
        data := Function.update s.data inode []
        writers := s.writers ++ [⟨w, inode, 0⟩] }
    | none =>
      some { s with
        names := Function.update s.names (r.tmp w) (some s.next)
        data := Function.update s.data s.next []
        next := s.next + 1
        writers := s.writers ++ [⟨w, s.next, 0⟩] }
  | .write i n =>
    s.writers[i]?.map fun a =>
      let piece := ((r.text a.write).drop a.offset).take n
      { s with
        data := Function.update s.data a.inode (overwrite (s.data a.inode) a.offset piece)
        writers := s.writers.set i { a with offset := a.offset + piece.length } }
  | .rename i =>
    match s.writers[i]? with
    | some a =>
      if a.offset < (r.text a.write).length then none
      else
        (s.names (r.tmp a.write)).map fun inode =>
          { s with
            names := Function.update (Function.update s.names (r.tmp a.write) none)
              (r.target a.write) (some inode)
            writers := s.writers.eraseIdx i }
    | none => none
  | .stop i removes =>
    s.writers[i]?.map fun a =>
      { s with
        names := if removes then Function.update s.names (r.tmp a.write) none else s.names
        writers := s.writers.eraseIdx i }
  | .kill => some { s with writers := [] }

/-- The write that is renamed, if one is. -/
def renamed (s : ReplacedFiles ω F α) : ReplaceEvent ω → List ω
  | .rename i => s.writers[i]?.toList.map (·.write)
  | .create _ | .write .. | .stop .. | .kill => []

end ReplacedFiles

variable [DecidableEq F]

/-- What the files hold after the writes, one after the other. -/
def Replacing.saved (r : Replacing ω F α) (before : F → Option (List α)) (done : List ω) :
    F → Option (List α) :=
  done.foldl (fun c w => Function.update c (r.target w) (some (r.text w))) before

theorem Replacing.saved_append (r : Replacing ω F α) (before : F → Option (List α))
    (done : List ω) (w : ω) :
    r.saved before (done ++ [w]) = Function.update (r.saved before done) (r.target w)
      (some (r.text w)) := by
  rw [saved, saved, List.foldl_append, List.foldl_cons, List.foldl_nil]

namespace ReplacedFiles
variable {r : Replacing ω F α} {s s' : ReplacedFiles ω F α} {before : F → Option (List α)}
  {done : List ω}

/-- Every writer has the inode of its tmp file to itself, and the targets hold what was saved. -/
structure Inv (r : Replacing ω F α) (before : F → Option (List α)) (done : List ω)
    (s : ReplacedFiles ω F α) : Prop where
  old : ∀ f inode, s.names f = some inode → inode < s.next
  single : ∀ f g inode, s.names f = some inode → s.names g = some inode → f = g
  opened : ∀ a ∈ s.writers, s.names (r.tmp a.write) = some a.inode
  written : ∀ a ∈ s.writers, s.data a.inode ++ (r.text a.write).drop a.offset = r.text a.write
  offset : ∀ a ∈ s.writers, (s.data a.inode).length = a.offset
  apart : s.writers.Pairwise fun a b => r.tmp a.write ≠ r.tmp b.write
  targets : ∀ f, (∀ w, r.tmp w ≠ f) → s.content f = r.saved before done f

theorem names_of_update {names : F → Option Nat} {f g : F} {inode : Nat}
    (h : Function.update names g none f = some inode) : f ≠ g ∧ names f = some inode := by
  by_cases hf : f = g
  · rw [hf, Function.update_self] at h
    cases h
  · rw [Function.update_of_ne hf] at h
    exact ⟨hf, h⟩

namespace Inv

/-- The order of the writers does not matter. -/
theorem perm (H : s.Inv r before done) {ws : List (Writer ω)} (h : s.writers.Perm ws) :
    ({ s with writers := ws } : ReplacedFiles ω F α).Inv r before done := by
  constructor
  · exact H.old
  · exact H.single
  · exact fun a ha => H.opened a (h.mem_iff.mpr ha)
  · exact fun a ha => H.written a (h.mem_iff.mpr ha)
  · exact fun a ha => H.offset a (h.mem_iff.mpr ha)
  · exact (h.pairwise_iff Ne.symm).mp H.apart
  · exact H.targets

/-- A writer less. -/
theorem sublist (H : s.Inv r before done) {ws : List (Writer ω)} (h : ws.Sublist s.writers) :
    ({ s with writers := ws } : ReplacedFiles ω F α).Inv r before done := by
  constructor
  · exact H.old
  · exact H.single
  · exact fun a ha => H.opened a (h.subset ha)
  · exact fun a ha => H.written a (h.subset ha)
  · exact fun a ha => H.offset a (h.subset ha)
  · exact H.apart.sublist h
  · exact H.targets

/-- What a writer at work has opened is no other file. -/
theorem inode_ne (H : s.Inv r before done) {a : Writer ω} (ha : a ∈ s.writers) {f : F}
    (hf : r.tmp a.write ≠ f) {inode : Nat} (hinode : s.names f = some inode) :
    inode ≠ a.inode := by
  rintro rfl
  exact hf (H.single _ _ _ (H.opened a ha) hinode)

/-- A new writer with an inode that no other one has. -/
theorem starts (H : s.Inv r before done) {w : ω} (happart : s.Apart r (.create w)) {inode : Nat}
    (hother : ∀ a ∈ s.writers, a.inode ≠ inode) :
    let writers := s.writers ++ [(⟨w, inode, 0⟩ : Writer ω)]
    (∀ a ∈ writers,
      Function.update s.data inode [] a.inode ++ (r.text a.write).drop a.offset = r.text a.write ∧
        (Function.update s.data inode [] a.inode).length = a.offset) ∧
      writers.Pairwise fun a b => r.tmp a.write ≠ r.tmp b.write := by
  constructor
  · intro a ha
    rcases List.mem_append.mp ha with ha | ha
    · rw [Function.update_of_ne (hother a ha)]
      exact ⟨H.written a ha, H.offset a ha⟩
    · obtain rfl := List.mem_singleton.mp ha
      simp
  · rw [List.pairwise_append]
    refine ⟨H.apart, List.pairwise_singleton _ _, ?_⟩
    intro a ha b hb
    obtain rfl := List.mem_singleton.mp hb
    exact happart a ha

/-- A writer has truncated its tmp file. -/
theorem truncated (H : s.Inv r before done) {w : ω} (happart : s.Apart r (.create w)) {inode : Nat}
    (hinode : s.names (r.tmp w) = some inode) :
    ({ s with
      data := Function.update s.data inode []
      writers := s.writers ++ [⟨w, inode, 0⟩] } : ReplacedFiles ω F α).Inv r before done := by
  have hother : ∀ a ∈ s.writers, a.inode ≠ inode := by
    intro a ha
    exact (H.inode_ne ha (happart a ha) hinode).symm
  have hstarts := H.starts happart hother
  constructor
  · exact H.old
  · exact H.single
  · intro a ha
    rcases List.mem_append.mp ha with ha | ha
    · exact H.opened a ha
    · obtain rfl := List.mem_singleton.mp ha
      exact hinode
  · exact fun a ha => (hstarts.1 a ha).1
  · exact fun a ha => (hstarts.1 a ha).2
  · exact hstarts.2
  · intro f hf
    rw [← H.targets f hf]
    refine content_congr rfl fun n hn => Function.update_of_ne ?_ _ _
    rintro rfl
    exact hf w (H.single _ _ _ hinode hn)

/-- A writer has created its tmp file. -/
theorem created (H : s.Inv r before done) {w : ω} (happart : s.Apart r (.create w)) :
    ({ s with
      names := Function.update s.names (r.tmp w) (some s.next)
      data := Function.update s.data s.next []
      next := s.next + 1
      writers := s.writers ++ [⟨w, s.next, 0⟩] } : ReplacedFiles ω F α).Inv r before done := by
  have hother : ∀ a ∈ s.writers, a.inode ≠ s.next := by
    intro a ha
    exact Nat.ne_of_lt (H.old _ _ (H.opened a ha))
  have hstarts := H.starts happart hother
  have hnames : ∀ f inode, Function.update s.names (r.tmp w) (some s.next) f = some inode →
      f = r.tmp w ∧ inode = s.next ∨ s.names f = some inode ∧ inode < s.next := by
    intro f inode h
    by_cases hf : f = r.tmp w
    · rw [hf, Function.update_self] at h
      exact .inl ⟨hf, (Option.some.inj h).symm⟩
    · rw [Function.update_of_ne hf] at h
      exact .inr ⟨h, H.old f inode h⟩
  constructor
  · intro f inode hf
    rcases hnames f inode hf with ⟨-, rfl⟩ | ⟨-, hold⟩
    · exact Nat.lt_succ_self _
    · exact Nat.lt_succ_of_lt hold
  · intro f g inode hf hg
    rcases hnames f inode hf with ⟨rfl, rfl⟩ | ⟨hf, hold⟩
    · rcases hnames g _ hg with ⟨rfl, -⟩ | ⟨-, hold⟩
      · rfl
      · exact absurd hold (Nat.lt_irrefl _)
    · rcases hnames g inode hg with ⟨-, rfl⟩ | ⟨hg, -⟩
      · exact absurd hold (Nat.lt_irrefl _)
      · exact H.single f g inode hf hg
  · intro a ha
    rcases List.mem_append.mp ha with ha | ha
    · exact (Function.update_of_ne (happart a ha) _ _).trans (H.opened a ha)
    · obtain rfl := List.mem_singleton.mp ha
      exact Function.update_self _ _ _
  · exact fun a ha => (hstarts.1 a ha).1
  · exact fun a ha => (hstarts.1 a ha).2
  · exact hstarts.2
  · intro f hf
    rw [← H.targets f hf]
    refine content_congr (Function.update_of_ne (hf w).symm _ _) fun n hn => ?_
    exact Function.update_of_ne (Nat.ne_of_lt (H.old f n hn)) _ _

/-- The writers but the first. -/
theorem cons (H : s.Inv r before done) {a : Writer ω} {ws : List (Writer ω)}
    (hws : s.writers = a :: ws) :
    a ∈ s.writers ∧ (∀ b ∈ ws, b ∈ s.writers ∧ r.tmp a.write ≠ r.tmp b.write) ∧
      ws.Pairwise fun a b => r.tmp a.write ≠ r.tmp b.write := by
  have hapart := H.apart
  rw [hws] at hapart ⊢
  obtain ⟨hhead, htail⟩ := List.pairwise_cons.mp hapart
  exact ⟨List.mem_cons_self, fun b hb => ⟨List.mem_cons_of_mem a hb, hhead b hb⟩, htail⟩

/-- The first writer has written a piece. -/
theorem wrote [Inhabited α] (H : s.Inv r before done) {a : Writer ω} {ws : List (Writer ω)}
    (hws : s.writers = a :: ws) {piece : List α}
    (hpiece : piece <+: (r.text a.write).drop a.offset) :
    ({ s with
      data := Function.update s.data a.inode (overwrite (s.data a.inode) a.offset piece)
      writers := { a with offset := a.offset + piece.length } :: ws } :
        ReplacedFiles ω F α).Inv r before done := by
  obtain ⟨ha, hrest, hapart⟩ := H.cons hws
  have hother : ∀ b ∈ ws, b.inode ≠ a.inode := by
    intro b hb
    obtain ⟨hb, hne⟩ := hrest b hb
    exact H.inode_ne ha hne (H.opened b hb)
  have hdata : overwrite (s.data a.inode) a.offset piece = s.data a.inode ++ piece := by
    rw [← H.offset a ha, overwrite_length]
  constructor
  · exact H.old
  · exact H.single
  · intro b hb
    rcases List.mem_cons.mp hb with rfl | hb
    · exact H.opened a ha
    · exact H.opened b (hrest b hb).1
  · intro b hb
    rcases List.mem_cons.mp hb with rfl | hb
    · have htext := List.prefix_iff_eq_append.mp hpiece
      rw [List.drop_drop] at htext
      simp only [Function.update_self, hdata, List.append_assoc, htext]
      exact H.written a ha
    · simp only [Function.update_of_ne (hother b hb)]
      exact H.written b (hrest b hb).1
  · intro b hb
    rcases List.mem_cons.mp hb with rfl | hb
    · simp only [Function.update_self, hdata, List.length_append, H.offset a ha]
    · simp only [Function.update_of_ne (hother b hb)]
      exact H.offset b (hrest b hb).1
  · exact List.pairwise_cons.mpr ⟨fun b hb => (hrest b hb).2, hapart⟩
  · intro f hf
    rw [← H.targets f hf]
    exact content_congr rfl fun n hn => Function.update_of_ne (H.inode_ne ha (hf a.write) hn) _ _

/-- The first writer has renamed its tmp file. -/
theorem renamed (H : s.Inv r before done) {a : Writer ω} {ws : List (Writer ω)}
    (hws : s.writers = a :: ws) (hall : ¬ a.offset < (r.text a.write).length) :
    ({ s with
      names := Function.update (Function.update s.names (r.tmp a.write) none) (r.target a.write)
        (some a.inode)
      writers := ws } : ReplacedFiles ω F α).Inv r before (done ++ [a.write]) := by
  obtain ⟨ha, hrest, hapart⟩ := H.cons hws
  have hopened := H.opened a ha
  have hnames : ∀ f inode, Function.update (Function.update s.names (r.tmp a.write) none)
      (r.target a.write) (some a.inode) f = some inode →
      f = r.target a.write ∧ inode = a.inode ∨ s.names f = some inode ∧ inode ≠ a.inode := by
    intro f inode h
    by_cases hf : f = r.target a.write
    · rw [hf, Function.update_self] at h
      exact .inl ⟨hf, (Option.some.inj h).symm⟩
    · rw [Function.update_of_ne hf] at h
      obtain ⟨hne, h⟩ := names_of_update h
      exact .inr ⟨h, H.inode_ne ha hne.symm h⟩
  constructor
  · intro f inode hf
    rcases hnames f inode hf with ⟨-, rfl⟩ | ⟨hf, -⟩
    · exact H.old _ _ hopened
    · exact H.old f inode hf
  · intro f g inode hf hg
    rcases hnames f inode hf with ⟨rfl, rfl⟩ | ⟨hf, hne⟩
    · rcases hnames g _ hg with ⟨rfl, -⟩ | ⟨-, hne⟩
      · rfl
      · exact absurd rfl hne
    · rcases hnames g inode hg with ⟨-, rfl⟩ | ⟨hg, -⟩
      · exact absurd rfl hne
      · exact H.single f g inode hf hg
  · intro b hb
    have hne := r.tmp_ne_target b.write a.write
    have htmp := (hrest b hb).2.symm
    simp only [Function.update_of_ne hne, Function.update_of_ne htmp]
    exact H.opened b (hrest b hb).1
  · exact fun b hb => H.written b (hrest b hb).1
  · exact fun b hb => H.offset b (hrest b hb).1
  · exact hapart
  · intro f hf
    rw [Replacing.saved_append]
    by_cases hft : f = r.target a.write
    · have hnil := List.drop_eq_nil_of_le (Nat.le_of_not_lt hall)
      have htext := H.written a ha
      rw [hnil, List.append_nil] at htext
      rw [hft, Function.update_self]
      simp only [content, Function.update_self, Option.map_some, htext]
    · have hold : Function.update (Function.update s.names (r.tmp a.write) none)
          (r.target a.write) (some a.inode) f = s.names f := by
        rw [Function.update_of_ne hft, Function.update_of_ne (hf a.write).symm]
      rw [Function.update_of_ne hft, ← H.targets f hf]
      exact content_congr hold fun _ _ => rfl

/-- The first writer has given up and removed its tmp file. -/
theorem removed (H : s.Inv r before done) {a : Writer ω} {ws : List (Writer ω)}
    (hws : s.writers = a :: ws) :
    ({ s with
      names := Function.update s.names (r.tmp a.write) none
      writers := ws } : ReplacedFiles ω F α).Inv r before done := by
  obtain ⟨ha, hrest, hapart⟩ := H.cons hws
  constructor
  · exact fun f inode hf => H.old f inode (names_of_update hf).2
  · exact fun f g inode hf hg =>
      H.single f g inode (names_of_update hf).2 (names_of_update hg).2
  · intro b hb
    simp only [Function.update_of_ne (hrest b hb).2.symm]
    exact H.opened b (hrest b hb).1
  · exact fun b hb => H.written b (hrest b hb).1
  · exact fun b hb => H.offset b (hrest b hb).1
  · exact hapart
  · intro f hf
    rw [← H.targets f hf]
    exact content_congr (Function.update_of_ne (hf a.write).symm _ _) fun _ _ => rfl

theorem step [Inhabited α] {e : ReplaceEvent ω} (H : s.Inv r before done)
    (hstep : s.step r e = some s') (happart : s.Apart r e) :
    s'.Inv r before (done ++ s.renamed e) := by
  cases e with
  | create w =>
    rw [ReplacedFiles.renamed, List.append_nil]
    rw [ReplacedFiles.step] at hstep
    split at hstep
    · next inode hinode =>
      cases hstep
      exact H.truncated happart hinode
    · cases hstep
      exact H.created happart
  | write i n =>
    rw [ReplacedFiles.renamed, List.append_nil]
    obtain ⟨a, ha, rfl⟩ := Option.map_eq_some_iff.mp hstep
    obtain ⟨hi, rfl⟩ := List.getElem?_eq_some_iff.mp ha
    have hperm := H.perm (List.getElem_cons_eraseIdx_perm hi).symm
    exact (hperm.wrote rfl (List.take_prefix n _)).perm (List.set_perm_cons_eraseIdx hi _).symm
  | rename i =>
    rw [ReplacedFiles.step] at hstep
    split at hstep
    · next a ha =>
      split at hstep
      · cases hstep
      · next hall =>
        obtain ⟨hi, hget⟩ := List.getElem?_eq_some_iff.mp ha
        obtain ⟨inode, hinode, rfl⟩ := Option.map_eq_some_iff.mp hstep
        have hmem : a ∈ s.writers := List.mem_of_getElem? ha
        obtain rfl : inode = a.inode := Option.some.inj (hinode.symm.trans (H.opened a hmem))
        have hperm := H.perm (List.getElem_cons_eraseIdx_perm hi).symm
        rw [ReplacedFiles.renamed, ha]
        subst hget
        exact hperm.renamed rfl hall
    · cases hstep
  | stop i removes =>
    rw [ReplacedFiles.renamed, List.append_nil]
    obtain ⟨a, ha, rfl⟩ := Option.map_eq_some_iff.mp hstep
    obtain ⟨hi, rfl⟩ := List.getElem?_eq_some_iff.mp ha
    cases removes with
    | true =>
      have hperm := H.perm (List.getElem_cons_eraseIdx_perm hi).symm
      exact hperm.removed rfl
    | false => exact H.sublist (List.eraseIdx_sublist _ _)
  | kill =>
    cases hstep
    rw [ReplacedFiles.renamed, List.append_nil]
    exact H.sublist (List.nil_sublist _)

end Inv

/-- The files before anybody is at work: no two names are of one file. -/
structure Quiet (s : ReplacedFiles ω F α) : Prop where
  writers : s.writers = []
  old : ∀ f inode, s.names f = some inode → inode < s.next
  single : ∀ f g inode, s.names f = some inode → s.names g = some inode → f = g

theorem Quiet.inv (h : s.Quiet) : s.Inv r s.content [] := by
  have hnone : ∀ a, a ∉ s.writers := by
    intro a ha
    rw [h.writers] at ha
    cases ha
  constructor
  · exact h.old
  · exact h.single
  · exact fun a ha => absurd ha (hnone a)
  · exact fun a ha => absurd ha (hnone a)
  · exact fun a ha => absurd ha (hnone a)
  · rw [h.writers]
    exact .nil
  · exact fun f _ => rfl

/-- Every file but the tmp files holds what was last renamed onto it. -/
theorem content_of_run [Inhabited α] {es : List (ReplaceEvent ω)} (h : s.Quiet)
    (hrun : exec (step r) s es = some s') (happart : Along (step r) (Apart r) s es) {f : F}
    (hf : ∀ w, r.tmp w ≠ f) :
    s'.content f = r.saved s.content (yields (step r) renamed s es) f := by
  have hinv : s'.Inv r s.content ([] ++ yields (step r) renamed s es) :=
    exec_invariant_yields (I := fun done t => t.Inv r s.content done)
      (fun done t e t' hstep hgood H => H.step hstep hgood) hrun happart h.inv
  exact hinv.targets f hf

/-! A write goes through if nobody else is at work. -/

theorem exists_create [Inhabited α] (h : s.writers = []) (w : ω) : ∃ t inode,
    s.step r (.create w) = some t ∧ t.writers = [⟨w, inode, 0⟩] ∧
      t.names (r.tmp w) = some inode := by
  rw [step]
  split
  · next inode hinode => exact ⟨_, inode, rfl, by rw [h, List.nil_append], hinode⟩
  · exact ⟨_, s.next, rfl, by rw [h, List.nil_append], Function.update_self _ _ _⟩

theorem exec_alone [Inhabited α] (h : s.writers = []) (w : ω) : ∃ t,
    exec (step r) s [.create w, .write 0 (r.text w).length, .rename 0] = some t ∧
      t.writers = [] ∧
      yields (step r) renamed s [.create w, .write 0 (r.text w).length, .rename 0] = [w] ∧
      Along (step r) (Apart r) s [.create w, .write 0 (r.text w).length, .rename 0] := by
  obtain ⟨t, inode, hcreate, hwriters, hname⟩ := exists_create (r := r) h w
  let written : ReplacedFiles ω F α :=
    { t with
      data := Function.update t.data inode (overwrite (t.data inode) 0 (r.text w))
      writers := [⟨w, inode, (r.text w).length⟩] }
  have hwrite : t.step r (.write 0 (r.text w).length) = some written := by
    simp [step, hwriters, written]
  let replaced : ReplacedFiles ω F α :=
    { written with
      names := Function.update (Function.update t.names (r.tmp w) none) (r.target w) (some inode)
      writers := [] }
  have hrename : written.step r (.rename 0) = some replaced := by
    simp [step, hname, written, replaced]
  refine ⟨replaced, ?_, rfl, ?_, ?_⟩
  · rw [exec_cons]
    exact ⟨t, hcreate, exec_cons.mpr ⟨written, hwrite, exec_cons.mpr ⟨replaced, hrename, rfl⟩⟩⟩
  · rw [yields_cons hcreate, yields_cons hwrite, yields_cons hrename]
    rfl
  · rw [Along.cons hcreate, Along.cons hwrite, Along.cons hrename]
    exact ⟨apart_create h w, True.intro, True.intro, True.intro⟩

/-- A write that is killed on the way. -/
theorem exec_killed [Inhabited α] (h : s.writers = []) (w : ω) (n : Nat) : ∃ t,
    exec (step r) s [.create w, .write 0 n, .kill] = some t ∧
      yields (step r) renamed s [.create w, .write 0 n, .kill] = [] ∧
      Along (step r) (Apart r) s [.create w, .write 0 n, .kill] := by
  obtain ⟨t, inode, hcreate, hwriters, -⟩ := exists_create (r := r) h w
  obtain ⟨u, hwrite⟩ : ∃ u, t.step r (.write 0 n) = some u := by
    rw [step, hwriters]
    exact ⟨_, rfl⟩
  refine ⟨{ u with writers := [] }, ?_, ?_, ?_⟩
  · rw [exec_cons]
    exact ⟨t, hcreate, exec_cons.mpr ⟨u, hwrite, rfl⟩⟩
  · rw [yields_cons hcreate, yields_cons hwrite]
    rfl
  · rw [Along.cons hcreate, Along.cons hwrite]
    exact ⟨apart_create h w, True.intro, True.intro, True.intro⟩

end ReplacedFiles
end GreaterWill
