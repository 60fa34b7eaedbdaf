import GreaterWill.Lib.Digits
import GreaterWill.Lib.Generations
import GreaterWill.Lib.Json
import GreaterWill.Lib.Path

/-!
# The run log

`append_run_log` of `log/jsonl.rs`: one line of JSON for each plan that was executed. A log file
that has become too large is rotated first: the oldest rotated file is deleted, each of the others
is renamed to the next number, and the log file becomes `.1`. A removal or a rename that fails is
warned about and skipped; every other file operation succeeds here.
-/

namespace GreaterWill

/-- Maximum log file size before rotation (10 MB). -/
def MAX_LOG_SIZE : Nat := 10 * 1024 * 1024

/-- Number of rotated files to keep. -/
def MAX_ROTATED_FILES : Nat := 5

/-- The contents of the files, by their paths. -/
abbrev LogFiles := Dict String

/-- Which operations of a rotation succeed. -/
structure RotateIo where
  removes : Bool
  /-- By the number of the file; the log file has the number 0. -/
  renames : Nat → Bool

/-- All of them. -/
def RotateIo.ok : RotateIo := ⟨true, fun _ => true⟩

def rotatedPath (base : PathBuf) (i : Nat) : PathBuf := base ++ "." ++ i.repr

/-- `std::fs::rename` of a file that may not exist. -/
def renameFile (ok : Bool) (source target : PathBuf) (files : LogFiles) : LogFiles :=
  match files.lookup source with
  | some contents => if ok then (files.erase source).insert target contents else files
  | none => files

/-- A rotated file gets the next number. -/
def shiftFile (io : RotateIo) (base : PathBuf) (files : LogFiles) (i : Nat) : LogFiles :=
  renameFile (io.renames i) (rotatedPath base i) (rotatedPath base (i + 1)) files

/-- Delete the oldest rotated file. -/
def removeOldest (io : RotateIo) (base : PathBuf) (files : LogFiles) : LogFiles :=
  let oldest := rotatedPath base MAX_ROTATED_FILES
  if (files.lookup oldest).isSome && io.removes then files.erase oldest else files

/-- Shift the other rotated files, the largest number first. -/
def shiftRotated (io : RotateIo) (base : PathBuf) (files : LogFiles) : LogFiles :=
  (List.range' 1 (MAX_ROTATED_FILES - 1)).reverse.foldl (shiftFile io base) files

/-- `rotate_log`. -/
def rotateLog (io : RotateIo) (logPath : PathBuf) (files : LogFiles) : LogFiles :=
  renameFile (io.renames 0) logPath (rotatedPath logPath 1)
    (shiftRotated io logPath (removeOldest io logPath files))

/-- The log file of a directory. -/
def runLogPath (logDir : PathBuf) : PathBuf := logDir.join "run-log.jsonl"

/-- The log file is so large that the next call rotates it. -/
def NeedsRotation (logPath : PathBuf) (files : LogFiles) : Prop :=
  ∃ contents ∈ files.lookup logPath, MAX_LOG_SIZE ≤ contents.utf8ByteSize

instance (logPath : PathBuf) (files : LogFiles) : Decidable (NeedsRotation logPath files) :=
  decidable_of_iff ((files.lookup logPath).any (MAX_LOG_SIZE ≤ ·.utf8ByteSize) = true) <| by
    rw [NeedsRotation, Option.any_eq_true]
    simp

section
variable {Entry : Type} (toJson : Entry → Option String)

/-- `append_run_log`: the files afterwards. `toJson` is `serde_json::to_string`. -/
def appendRunLog (io : RotateIo) (logDir : PathBuf) (files : LogFiles) (entry : Entry) :
    LogFiles :=
  let logPath := runLogPath logDir
  let files := if NeedsRotation logPath files then rotateLog io logPath files else files
  match toJson entry with
  | some json => files.insert logPath ((files.lookup logPath).getD "" ++ (json ++ "\n"))
  | none => files

/-- The lines that are appended for entries. -/
def appendedLines (entries : List Entry) : List String :=
  entries.filterMap fun entry => (toJson entry).map (· ++ "\n")

end

/-- No rotated file and no log file exists. -/
structure NoLogs (logPath : PathBuf) (files : LogFiles) : Prop where
  current : files.lookup logPath = none
  rotated : ∀ i, files.lookup (rotatedPath logPath i) = none

/-- The rotated files from the oldest to the newest, and the log file, one after the other. -/
def keptText (logPath : PathBuf) (files : LogFiles) : String :=
  String.join (((List.range MAX_ROTATED_FILES).reverse.map fun i =>
    (files.lookup (rotatedPath logPath (i + 1))).getD "") ++ [(files.lookup logPath).getD ""])

/-- What is kept are the last ones of the lines, at least one if there are any. -/
def KeepsSuffix (logPath : PathBuf) (lines : List String) (files : LogFiles) : Prop :=
  ∃ lost retained, lines = lost ++ retained ∧ keptText logPath files = String.join retained ∧
    (lines ≠ [] → retained ≠ [])

/-- The log file is rotated, and every rotated file exists. -/
structure RotatesFull (logPath : PathBuf) (files : LogFiles) : Prop where
  needs : NeedsRotation logPath files
  full : ∀ i, 1 ≤ i → i ≤ MAX_ROTATED_FILES → (files.lookup (rotatedPath logPath i)).isSome

/-- A full rotation loses the oldest file; nothing else is lost. -/
structure LosesOldestOnly (logPath : PathBuf) (lines : List String) (files after : LogFiles) :
    Prop where
  full : RotatesFull logPath files →
    (files.lookup (rotatedPath logPath MAX_ROTATED_FILES)).getD "" ++ keptText logPath after =
      keptText logPath files ++ String.join lines
  otherwise : ¬ RotatesFull logPath files →
    keptText logPath after = keptText logPath files ++ String.join lines

/-! ## The paths -/

section
variable {base : PathBuf} {i j : Nat}

theorem rotatedPath_inj : rotatedPath base i = rotatedPath base j ↔ i = j :=
  (String.append_right_inj (base ++ ".")).trans Text.repr_inj

theorem rotatedPath_ne (base : PathBuf) (i : Nat) : rotatedPath base i ≠ base := by
  intro h
  have hlength := congrArg String.length h
  rw [rotatedPath, String.length_append, String.length_append] at hlength
  have hdot : ".".length = 1 := rfl
  omega

end

/-! ## The shift -/

section
variable {files : LogFiles} {source target path base logPath : PathBuf}

theorem lookup_renameFile_of_ne (ok : Bool) (hsource : path ≠ source) (htarget : path ≠ target) :
    (renameFile ok source target files).lookup path = files.lookup path := by
  rw [renameFile]
  split
  · split
    · rw [Finmap.lookup_insert_of_ne _ htarget, Finmap.lookup_erase_ne hsource]
    · rfl
  · rfl

theorem lookup_renameFile_source (hne : source ≠ target) :
    (renameFile true source target files).lookup source = none := by
  rw [renameFile]
  split
  · rw [if_pos rfl, Finmap.lookup_insert_of_ne _ hne, Finmap.lookup_erase]
  · next hnone => exact hnone

theorem lookup_renameFile_target (hfree : files.lookup target = none) :
    (renameFile true source target files).lookup target = files.lookup source := by
  rw [renameFile]
  split
  · next contents hsome => rw [if_pos rfl, Finmap.lookup_insert, hsome]
  · next hnone => rw [hfree, hnone]

/-- From the largest number down, every file is renamed to a number that is free. -/
theorem lookup_shift (base : PathBuf) (n : Nat) (files : LogFiles)
    (hfree : files.lookup (rotatedPath base (n + 1)) = none) :
    ((List.range' 1 n).reverse.foldl (shiftFile .ok base) files).lookup (rotatedPath base 1) =
        none ∧
      (∀ i, 1 ≤ i → i ≤ n →
        ((List.range' 1 n).reverse.foldl (shiftFile .ok base) files).lookup
          (rotatedPath base (i + 1)) = files.lookup (rotatedPath base i)) ∧
      ∀ path, (∀ i, 1 ≤ i → i ≤ n + 1 → path ≠ rotatedPath base i) →
        ((List.range' 1 n).reverse.foldl (shiftFile .ok base) files).lookup path =
          files.lookup path := by
  induction n generalizing files with
  | zero =>
    refine ⟨hfree, fun i hi hn => ?_, fun path _ => rfl⟩
    omega
  | succ n ih =>
    have hne : rotatedPath base (n + 1) ≠ rotatedPath base (n + 1 + 1) := by
      rw [Ne, rotatedPath_inj]
      omega
    rw [List.range'_1_concat, List.reverse_append, List.reverse_singleton, List.singleton_append,
      List.foldl_cons, Nat.add_comm 1 n]
    obtain ⟨hfirst, hshift, hframe⟩ := ih (shiftFile .ok base files (n + 1))
      (lookup_renameFile_source hne)
    refine ⟨hfirst, fun i hi hn => ?_, fun path hpath => ?_⟩
    · rcases Nat.lt_or_eq_of_le hn with hlt | rfl
      · rw [hshift i hi (Nat.le_of_lt_succ hlt), shiftFile, lookup_renameFile_of_ne]
        · rw [Ne, rotatedPath_inj]
          omega
        · rw [Ne, rotatedPath_inj]
          omega
      · rw [hframe, shiftFile, RotateIo.ok, lookup_renameFile_target hfree]
        intro j hj hjn
        rw [Ne, rotatedPath_inj]
        omega
    · rw [hframe path fun i hi hn => hpath i hi (by omega), shiftFile, lookup_renameFile_of_ne]
      · exact hpath (n + 1) (by omega) (by omega)
      · exact hpath (n + 1 + 1) (by omega) (by omega)

theorem lookup_removeOldest (base path : PathBuf) (files : LogFiles) :
    (removeOldest .ok base files).lookup path =
      if path = rotatedPath base MAX_ROTATED_FILES then none else files.lookup path := by
  rw [removeOldest, RotateIo.ok, Bool.and_true]
  by_cases h : path = rotatedPath base MAX_ROTATED_FILES
  · rw [if_pos h, h]
    split
    · exact Finmap.lookup_erase _ _
    · next hnone => exact Option.not_isSome_iff_eq_none.mp hnone
  · rw [if_neg h]
    split
    · exact Finmap.lookup_erase_ne h
    · rfl

/-- After a rotation each rotated file holds what the file before it held. -/
structure Rotated (logPath : PathBuf) (files after : LogFiles) : Prop where
  current : after.lookup logPath = none
  first : after.lookup (rotatedPath logPath 1) = files.lookup logPath
  shifted : ∀ i, 1 ≤ i → i < MAX_ROTATED_FILES →
    after.lookup (rotatedPath logPath (i + 1)) = files.lookup (rotatedPath logPath i)
  others : ∀ i, i = 0 ∨ MAX_ROTATED_FILES < i →
    after.lookup (rotatedPath logPath i) = files.lookup (rotatedPath logPath i)

theorem rotated_rotateLog (logPath : PathBuf) (files : LogFiles) :
    Rotated logPath files (rotateLog .ok logPath files) := by
  have hfree : (removeOldest .ok logPath files).lookup (rotatedPath logPath MAX_ROTATED_FILES) =
      none := by
    rw [lookup_removeOldest, if_pos rfl]
  obtain ⟨hfirst, hshift, hframe⟩ := lookup_shift logPath (MAX_ROTATED_FILES - 1) _ hfree
  have hne : logPath ≠ rotatedPath logPath 1 := (rotatedPath_ne logPath 1).symm
  have hcurrent : (shiftRotated .ok logPath (removeOldest .ok logPath files)).lookup logPath =
      files.lookup logPath := by
    rw [shiftRotated, hframe logPath fun i _ _ => (rotatedPath_ne logPath i).symm,
      lookup_removeOldest, if_neg (rotatedPath_ne logPath _).symm]
  refine ⟨lookup_renameFile_source hne, ?_, fun i hi hn => ?_, fun i hi => ?_⟩
  · exact (lookup_renameFile_target hfirst).trans hcurrent
  · rw [rotateLog, lookup_renameFile_of_ne _ (rotatedPath_ne logPath _), shiftRotated,
      hshift i hi (Nat.le_pred_of_lt hn), lookup_removeOldest, if_neg]
    · rw [rotatedPath_inj]
      omega
    · rw [Ne, rotatedPath_inj]
      omega
  · have hmax : MAX_ROTATED_FILES = 5 := rfl
    rw [rotateLog, lookup_renameFile_of_ne _ (rotatedPath_ne logPath _), shiftRotated, hframe,
      lookup_removeOldest, if_neg]
    · rw [rotatedPath_inj]
      omega
    · intro j hj hjn
      rw [Ne, rotatedPath_inj]
      omega
    · rw [Ne, rotatedPath_inj]
      omega

/-! ## The generations of the log -/

/-- The files hold the generations. -/
structure Holds (logPath : PathBuf) (files : LogFiles)
    (g : Generations String (MAX_ROTATED_FILES - 1)) : Prop where
  current : files.lookup logPath = if g.current = [] then none else some (String.join g.current)
  rotated : ∀ i, files.lookup (rotatedPath logPath (i + 1)) = (g.rotated[i]?).map String.join
  zero : files.lookup (rotatedPath logPath 0) = none

variable {g : Generations String (MAX_ROTATED_FILES - 1)}

theorem NoLogs.holds (h : NoLogs logPath files) : Holds logPath files (.empty _ _) where
  current := h.current
  rotated i := by rw [h.rotated]; rfl
  zero := h.rotated 0

theorem NeedsRotation.current_ne (h : NeedsRotation logPath files)
    (hholds : Holds logPath files g) : g.current ≠ [] := by
  rintro hnil
  obtain ⟨contents, hlookup, -⟩ := h
  rw [hholds.current, if_pos hnil] at hlookup
  cases hlookup

theorem Holds.rotate (h : Holds logPath files g) (hcurrent : g.current ≠ []) :
    Holds logPath (rotateLog .ok logPath files) g.rotate := by
  have hrotated := rotated_rotateLog logPath files
  refine ⟨?_, fun i => ?_, ?_⟩
  · rw [hrotated.current]
    rfl
  · rw [Generations.rotate, List.getElem?_take]
    rcases i with _ | i
    · rw [hrotated.first, h.current, if_neg hcurrent]
      rfl
    · split
      · next hlt =>
        rw [hrotated.shifted (i + 1) (by omega) (by rw [MAX_ROTATED_FILES] at *; omega), h.rotated]
        rfl
      · next hge =>
        have hbound : g.rotated.length ≤ i + 1 := Nat.le_trans g.bound (Nat.not_lt.mp hge)
        rw [hrotated.others _ (.inr (by omega)), h.rotated, List.getElem?_eq_none hbound]
  · rw [hrotated.others 0 (.inl rfl), h.zero]

theorem Holds.append (h : Holds logPath files g) (line : String) :
    Holds logPath (files.insert logPath ((files.lookup logPath).getD "" ++ line))
      (g.append [line]) := by
  refine ⟨?_, fun i => ?_, ?_⟩
  · have hne : (g.append [line]).current ≠ [] :=
      List.append_ne_nil_of_right_ne_nil g.current (List.cons_ne_nil line [])
    rw [Finmap.lookup_insert, h.current, if_neg hne, Generations.current_append,
      String.join_append]
    split
    · next hnil => simp [hnil]
    · simp
  · rw [Finmap.lookup_insert_of_ne _ (rotatedPath_ne logPath _), h.rotated]
    rfl
  · rw [Finmap.lookup_insert_of_ne _ (rotatedPath_ne logPath _), h.zero]

/-! ## The text that is kept -/

theorem join_generations (rotated : List (List String)) {n : Nat} (h : rotated.length ≤ n) :
    String.join ((List.range n).reverse.map fun i => ((rotated[i]?).map String.join).getD "") =
      String.join rotated.reverse.flatten := by
  induction rotated generalizing n with
  | nil =>
    have hnone : (List.range n).reverse.map
        (fun i => ((([] : List (List String))[i]?).map String.join).getD "") =
        List.replicate n "" := by
      simp [List.map_const']
    rw [hnone]
    clear h hnone
    induction n with
    | zero => rfl
    | succ n ih => rw [List.replicate_succ, String.join_cons, ih]; rfl
  | cons generation rotated ih =>
    obtain ⟨n, rfl⟩ : ∃ m, n = m + 1 := ⟨n - 1, by rw [List.length_cons] at h; omega⟩
    rw [List.range_succ_eq_map, List.reverse_cons, List.map_append, String.join_append,
      ← List.map_reverse, List.map_map]
    have htail := ih (n := n) (Nat.le_of_succ_le_succ h)
    simp only [Function.comp_def, List.getElem?_cons_succ]
    rw [htail, List.reverse_cons, List.flatten_append, String.join_append]
    simp

theorem Holds.keptText_eq (h : Holds logPath files g) :
    keptText logPath files = String.join g.kept := by
  have hcurrent : (files.lookup logPath).getD "" = String.join g.current := by
    rw [h.current]
    split
    · next hnil => simp [hnil]
    · rfl
  have hrotated : String.join ((List.range MAX_ROTATED_FILES).reverse.map fun i =>
      ((g.rotated[i]?).map String.join).getD "") = String.join g.rotated.reverse.flatten :=
    join_generations g.rotated g.bound
  simp only [keptText, h.rotated, hcurrent]
  rw [String.join_append, hrotated, Generations.kept, String.join_append]
  simp

/-- The oldest file has a generation only if the log is full. -/
theorem Holds.last (h : Holds logPath files g) :
    files.lookup (rotatedPath logPath MAX_ROTATED_FILES) =
      (g.rotated[MAX_ROTATED_FILES - 1]?).map String.join :=
  h.rotated (MAX_ROTATED_FILES - 1)

theorem Holds.oldest (h : Holds logPath files g) :
    (files.lookup (rotatedPath logPath MAX_ROTATED_FILES)).getD "" = String.join g.oldest := by
  rw [h.last, Generations.oldest]
  cases g.rotated[MAX_ROTATED_FILES - 1]? with
  | none => rfl
  | some generation => rfl

theorem Holds.full_iff (h : Holds logPath files g) : g.Full ↔
    ∀ i, 1 ≤ i → i ≤ MAX_ROTATED_FILES → (files.lookup (rotatedPath logPath i)).isSome := by
  constructor
  · intro hfull i hi hn
    obtain ⟨k, rfl⟩ : ∃ k, i = k + 1 := ⟨i - 1, by omega⟩
    have hlt : k < g.rotated.length := by
      rw [hfull]
      exact hn
    rw [h.rotated, List.getElem?_eq_getElem hlt]
    rfl
  · intro hall
    have hlast := hall MAX_ROTATED_FILES (by decide) (Nat.le_refl _)
    rw [h.last, Option.isSome_map, Option.isSome_iff_ne_none, Ne, List.getElem?_eq_none_iff,
      Nat.not_le] at hlast
    exact Nat.le_antisymm g.bound hlast

/-! ## A call, and a run of calls -/

section
variable {Entry : Type} {toJson : Entry → Option String} {logDir : PathBuf}

/-- The generations after a call. -/
theorem Holds.call (toJson : Entry → Option String) (h : Holds (runLogPath logDir) files g)
    (entry : Entry) :
    Holds (runLogPath logDir) (appendRunLog toJson .ok logDir files entry)
      ((if NeedsRotation (runLogPath logDir) files then g.rotate else g).append
        (appendedLines toJson [entry])) := by
  have hrotate : Holds (runLogPath logDir)
      (if NeedsRotation (runLogPath logDir) files then
        rotateLog .ok (runLogPath logDir) files else files)
      (if NeedsRotation (runLogPath logDir) files then g.rotate else g) := by
    split
    · next hneeds => exact h.rotate (hneeds.current_ne h)
    · exact h
  rw [appendRunLog, appendedLines]
  cases hjson : toJson entry with
  | none => simpa [hjson] using hrotate
  | some json => simpa [hjson] using hrotate.append (json ++ "\n")

/-- A call loses the oldest generation when it rotates a full log, and nothing otherwise. -/
theorem Holds.losesOldestOnly (h : Holds (runLogPath logDir) files g) (entry : Entry) :
    LosesOldestOnly (runLogPath logDir) (appendedLines toJson [entry]) files
      (appendRunLog toJson .ok logDir files entry) := by
  have hafter := h.call toJson entry
  constructor
  · rintro ⟨hneeds, -⟩
    rw [if_pos hneeds] at hafter
    rw [hafter.keptText_eq, h.keptText_eq, h.oldest, Generations.kept_append, String.join_append,
      ← String.append_assoc, ← String.join_append, Generations.oldest_append_kept_rotate]
  · intro hnot
    rw [hafter.keptText_eq, h.keptText_eq, Generations.kept_append, String.join_append]
    split
    · next hneeds =>
      have hoption : ¬ g.Full := fun hfull => hnot ⟨hneeds, h.full_iff.mp hfull⟩
      have hkept := Generations.oldest_append_kept_rotate g
      rw [Generations.oldest_of_not_full hoption, List.nil_append] at hkept
      rw [hkept]
    · rfl

/-- After a run of calls the files hold generations that are a suffix of the lines. -/
theorem exists_holds_run (toJson : Entry → Option String) (hempty : NoLogs (runLogPath logDir) files)
    (entries : List Entry) :
    ∃ g, Holds (runLogPath logDir) (entries.foldl (appendRunLog toJson .ok logDir) files) g ∧
      g.Suffix (appendedLines toJson entries) := by
  induction entries using List.reverseRecOn with
  | nil => exact ⟨_, hempty.holds, .empty⟩
  | append_singleton entries entry ih =>
    obtain ⟨g, hholds, hsuffix⟩ := ih
    rw [List.foldl_append]
    refine ⟨_, hholds.call toJson entry, ?_⟩
    have hlines : appendedLines toJson (entries ++ [entry]) =
        appendedLines toJson entries ++ appendedLines toJson [entry] :=
      List.filterMap_append
    rw [hlines]
    apply Generations.Suffix.append
    split
    · next hneeds => exact hsuffix.rotate (hneeds.current_ne hholds)
    · exact hsuffix

/-- From a directory without logs, for any calls: the files in a row hold the last lines, there are
no other rotated files, and what the next call loses is the oldest file of a full log. -/
theorem run_log_keeps_suffix (toJson : Entry → Option String) (logDir : PathBuf) (files : LogFiles)
    (hempty : NoLogs (runLogPath logDir) files) (entries : List Entry) :
    let after := entries.foldl (appendRunLog toJson .ok logDir) files
    KeepsSuffix (runLogPath logDir) (appendedLines toJson entries) after ∧
      (∀ i, (after.lookup (rotatedPath (runLogPath logDir) i)).isSome →
        1 ≤ i ∧ i ≤ MAX_ROTATED_FILES) ∧
      ∀ entry, LosesOldestOnly (runLogPath logDir) (appendedLines toJson [entry]) after
        (appendRunLog toJson .ok logDir after entry) := by
  obtain ⟨g, hholds, hsuffix⟩ := exists_holds_run toJson hempty entries
  refine ⟨?_, fun i hi => ?_, fun entry => hholds.losesOldestOnly entry⟩
  · obtain ⟨lost, hlost⟩ := hsuffix.suffix
    exact ⟨lost, g.kept, hlost.symm, hholds.keptText_eq, hsuffix.nonempty⟩
  · rcases i with _ | i
    · rw [hholds.zero] at hi
      cases hi
    · rw [hholds.rotated, Option.isSome_map, Option.isSome_iff_ne_none, Ne,
        List.getElem?_eq_none_iff, Nat.not_le] at hi
      exact ⟨Nat.succ_pos i, Nat.le_trans hi g.bound⟩

theorem noLogs_empty (logPath : PathBuf) : NoLogs logPath ∅ :=
  ⟨Finmap.lookup_empty _, fun _ => Finmap.lookup_empty _⟩

/-- Two lines are kept in an empty directory. -/
theorem two_lines_kept : KeepsSuffix (runLogPath "/gw") ["a\n", "b\n"]
    (["a", "b"].foldl (appendRunLog some .ok "/gw") ∅) :=
  (run_log_keeps_suffix some "/gw" ∅ (noLogs_empty _) ["a", "b"]).1

end

end

end GreaterWill
