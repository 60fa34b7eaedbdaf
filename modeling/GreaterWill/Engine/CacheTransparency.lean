import GreaterWill.Engine.CheckpointCache

/-!
# Calls that share a slot

A sequence of reads of a run's checkpoint threads one slot through the states of the repository.
The slot keeps the path that the loop state named when it was filled (`Adopts`) for as long as there
is a file at it. A read returns what the loop state points to unless such a path has outlived it.
-/

namespace GreaterWill

section
variable (serde : SerdeValue) (workingDir : PathBuf)

/-- The loop state is active and leads to a checkpoint that can be read. -/
def LoopStateReads (files : Files) (cpPath : PathBuf) (cp : Checkpoint) : Prop :=
  ∃ state, readArcLoopState files workingDir = .active state ∧
    cpPath = state.resolveCheckpointPath workingDir ∧ files.pathExists cpPath = true ∧
      readCheckpoint serde files cpPath = .ok cp

/-- There is no file at the path in the slot. -/
def SlotGone (files : Files) (slot : Option PathBuf) : Prop :=
  ∀ cpPath, slot = some cpPath → files.pathExists cpPath = false

section
variable {serde workingDir} {files : Files} {slot : Option PathBuf} {cpPath : PathBuf}
  {cp : Checkpoint}

theorem LoopStateReads.discover (h : LoopStateReads serde workingDir files cpPath cp) :
    discoverCheckpoint serde files workingDir = (some cp, some cpPath) := by
  obtain ⟨state, hstate, rfl, hexists, hread⟩ := h
  rw [discoverCheckpoint, hstate]
  dsimp only
  rw [if_pos hexists, hread]

theorem loopStateReads_of_discover
    (h : (discoverCheckpoint serde files workingDir).2 = some cpPath) :
    ∃ cp, LoopStateReads serde workingDir files cpPath cp := by
  rw [discoverCheckpoint] at h
  split at h
  · next state hstate =>
    dsimp only at h
    split at h
    · next hexists =>
      split at h
      · next cp hread =>
        cases h
        exact ⟨cp, state, hstate, rfl, hexists, hread⟩
      · cases h
    · cases h
  · cases h

theorem SlotGone.read (h : SlotGone files slot) :
    readCachedCheckpoint serde files workingDir slot =
      discoverCheckpoint serde files workingDir := by
  cases slot with
  | none => rfl
  | some cpPath =>
    rw [readCachedCheckpoint, h cpPath rfl]
    rfl

theorem readCachedCheckpoint_of_exists (hexists : files.pathExists cpPath = true) :
    readCachedCheckpoint serde files workingDir (some cpPath) =
      ((readCheckpoint serde files cpPath).toOption, some cpPath) := by
  rw [readCachedCheckpoint, if_pos hexists]
  cases readCheckpoint serde files cpPath with
  | ok cp => rfl
  | error e => rfl

/-- A call keeps the slot's path, or fills the slot from the loop state. -/
theorem slot_after_iff : (readCachedCheckpoint serde files workingDir slot).2 = some cpPath ↔
    slot = some cpPath ∧ files.pathExists cpPath = true ∨
      SlotGone files slot ∧ ∃ cp, LoopStateReads serde workingDir files cpPath cp := by
  constructor
  · intro h
    by_cases hgone : SlotGone files slot
    · rw [hgone.read] at h
      exact .inr ⟨hgone, loopStateReads_of_discover h⟩
    · left
      rw [SlotGone, not_forall] at hgone
      obtain ⟨kept, hkept⟩ := hgone
      rw [Classical.not_imp, Bool.not_eq_false] at hkept
      obtain ⟨rfl, hexists⟩ := hkept
      rw [readCachedCheckpoint_of_exists hexists] at h
      obtain rfl : kept = cpPath := Option.some.inj h
      exact ⟨rfl, hexists⟩
  · rintro (⟨rfl, hexists⟩ | ⟨hgone, cp, hreads⟩)
    · rw [readCachedCheckpoint_of_exists hexists]
    · rw [hgone.read, hreads.discover]

end

variable (files : Nat → Files)

/-- The slot before each call; the first call finds it empty. -/
def slotBefore : Nat → Option PathBuf
  | 0 => none
  | k + 1 => (readCachedCheckpoint serde (files k) workingDir (slotBefore k)).2

/-- The call returns the checkpoint the loop state leads to, if it leads to one. -/
def TransparentAt (k : Nat) : Prop :=
  ∀ cpPath cp, LoopStateReads serde workingDir (files k) cpPath cp →
    (readCachedCheckpoint serde (files k) workingDir (slotBefore serde workingDir files k)).1 =
      (readCachedCheckpoint serde (files k) workingDir none).1 ∧
    (readCachedCheckpoint serde (files k) workingDir none).1 = some cp

/-- The call fills the slot with a path from the loop state. -/
def Adopts (j : Nat) (cpPath : PathBuf) : Prop :=
  SlotGone (files j) (slotBefore serde workingDir files j) ∧
    ∃ cp, LoopStateReads serde workingDir (files j) cpPath cp

/-- A path adopted by an earlier call has had a file ever since, and reads differently from what
the loop state leads to now. -/
def OutlivedAt (k : Nat) : Prop :=
  ∃ j < k, ∃ old, Adopts serde workingDir files j old ∧
    (∀ i, j < i → i ≤ k → (files i).pathExists old = true) ∧
    ∃ cpPath cp, LoopStateReads serde workingDir (files k) cpPath cp ∧
      readCheckpoint serde (files k) old ≠ .ok cp

variable {serde workingDir files}

/-- Where the path in the slot comes from. -/
theorem slotBefore_eq_some_iff {k : Nat} {cpPath : PathBuf} :
    slotBefore serde workingDir files k = some cpPath ↔
      ∃ j < k, Adopts serde workingDir files j cpPath ∧
        ∀ i, j < i → i < k → (files i).pathExists cpPath = true := by
  induction k with
  | zero => simp [slotBefore]
  | succ k ih =>
    rw [slotBefore, slot_after_iff, ih]
    constructor
    · rintro (⟨⟨j, hj, hadopts, hsince⟩, hexists⟩ | hadopts)
      · refine ⟨j, Nat.lt_succ_of_lt hj, hadopts, ?_⟩
        intro i hji hi
        rcases Nat.lt_succ_iff_lt_or_eq.mp hi with hlt | rfl
        · exact hsince i hji hlt
        · exact hexists
      · exact ⟨k, Nat.lt_succ_self k, hadopts, fun i hki hi => absurd hi (by omega)⟩
    · rintro ⟨j, hj, hadopts, hsince⟩
      rcases Nat.lt_succ_iff_lt_or_eq.mp hj with hlt | rfl
      · exact .inl ⟨⟨j, hlt, hadopts, fun i hji hi => hsince i hji (Nat.lt_succ_of_lt hi)⟩,
          hsince k hlt (Nat.lt_succ_self k)⟩
      · exact .inr hadopts

theorem transparentAt_iff_slot {k : Nat} : TransparentAt serde workingDir files k ↔
    ∀ old, slotBefore serde workingDir files k = some old → (files k).pathExists old = true →
      ∀ cpPath cp, LoopStateReads serde workingDir (files k) cpPath cp →
        readCheckpoint serde (files k) old = .ok cp := by
  constructor
  · intro h old hslot hexists cpPath cp hreads
    have hsame := (h cpPath cp hreads).1.trans (h cpPath cp hreads).2
    rw [hslot, readCachedCheckpoint_of_exists hexists] at hsame
    cases hread : readCheckpoint serde (files k) old with
    | ok cp' =>
      rw [hread] at hsame
      exact congrArg Except.ok (Option.some.inj hsame)
    | error e =>
      rw [hread] at hsame
      cases hsame
  · intro h cpPath cp hreads
    have hempty : (readCachedCheckpoint serde (files k) workingDir none).1 = some cp := by
      rw [readCachedCheckpoint, hreads.discover]
    refine ⟨?_, hempty⟩
    rw [hempty]
    by_cases hgone : SlotGone (files k) (slotBefore serde workingDir files k)
    · rw [hgone.read, hreads.discover]
    · rw [SlotGone, not_forall] at hgone
      obtain ⟨old, hold⟩ := hgone
      rw [Classical.not_imp, Bool.not_eq_false] at hold
      obtain ⟨hslot, hexists⟩ := hold
      rw [hslot, readCachedCheckpoint_of_exists hexists, h old hslot hexists cpPath cp hreads]
      rfl

end

/-- A read with the shared slot returns the checkpoint the loop state leads to, exactly if no path
adopted earlier has outlived it. -/
theorem cached_read_transparent_iff (serde : SerdeValue) (workingDir : PathBuf)
    (files : Nat → Files) (k : Nat) :
    TransparentAt serde workingDir files k ↔ ¬ OutlivedAt serde workingDir files k := by
  rw [transparentAt_iff_slot]
  constructor
  · rintro h ⟨j, hj, old, hadopts, hsince, cpPath, cp, hreads, hdiffers⟩
    apply hdiffers
    refine h old ?_ (hsince k hj (Nat.le_refl k)) cpPath cp hreads
    exact slotBefore_eq_some_iff.mpr
      ⟨j, hj, hadopts, fun i hji hi => hsince i hji (Nat.le_of_lt hi)⟩
  · intro h old hslot hexists cpPath cp hreads
    by_contra hdiffers
    obtain ⟨j, hj, hadopts, hsince⟩ := slotBefore_eq_some_iff.mp hslot
    refine h ⟨j, hj, old, hadopts, ?_, cpPath, cp, hreads, hdiffers⟩
    intro i hji hi
    rcases Nat.eq_or_lt_of_le hi with rfl | hlt
    · exact hexists
    · exact hsince i hji hlt

/-! An arc is restarted under a new id; the checkpoint of the old arc stays where it is. -/

private def arcText (arcId : String) : String :=
  "\x7b\"id\":\"" ++ arcId ++ "\",\"plan_file\":\"plans/a.md\"\x7d"

private def arcCheckpoint (arcId : String) : Json :=
  .object [("id", .string arcId), ("plan_file", .string "plans/a.md")]

private def restartSerde : SerdeValue where
  fromStr text :=
    if text = arcText "arc-1" then some (arcCheckpoint "arc-1")
    else if text = arcText "arc-2" then some (arcCheckpoint "arc-2")
    else none
  toPretty _ := ""
  display _ := ""

private def restartFiles (k : Nat) : Files :=
  let arcId := if k = 0 then "arc-1" else "arc-2"
  Dict.ofList [
    ("/repo/.rune/arc-phase-loop.local.md", some
      ("---\nactive: true\ncheckpoint_path: .rune/arc/" ++ arcId ++ "/checkpoint.json\n" ++
        "plan_file: plans/a.md\n---\n")),
    ("/repo/.rune/arc/arc-1/checkpoint.json", some (arcText "arc-1")),
    ("/repo/.rune/arc/arc-2/checkpoint.json", some (arcText "arc-2"))]

/-- The id of the checkpoint read by the second call, with the slot of the first and without. -/
private theorem restart_ids :
    ((readCachedCheckpoint restartSerde (restartFiles 1) "/repo"
        (slotBefore restartSerde "/repo" restartFiles 1)).1.map (·.id) = some "arc-1" ∧
      (readCachedCheckpoint restartSerde (restartFiles 1) "/repo" none).1.map (·.id) =
        some "arc-2") := by
  decide +kernel

/-- The checkpoint of the old arc is returned. -/
theorem old_checkpoint_returned :
    ¬ ∀ (serde : SerdeValue) (workingDir : PathBuf) (files : Nat → Files) (k : Nat),
      TransparentAt serde workingDir files k := by
  intro hclaim
  obtain ⟨hcached, hempty⟩ := restart_ids
  cases hread : (readCachedCheckpoint restartSerde (restartFiles 1) "/repo" none).1 with
  | none =>
    rw [hread] at hempty
    cases hempty
  | some cp =>
    rcases discoverCheckpoint_cases restartSerde (restartFiles 1) "/repo" with
      hnone | ⟨cp', cpPath, hfound, -, -⟩
    · rw [readCachedCheckpoint, hnone] at hread
      cases hread
    · obtain ⟨cp'', hreads⟩ := loopStateReads_of_discover (congrArg Prod.snd hfound)
      have hsame := (hclaim restartSerde "/repo" restartFiles 1 cpPath cp'' hreads).1
      rw [hsame, hempty] at hcached
      exact absurd hcached (by decide)

end GreaterWill
