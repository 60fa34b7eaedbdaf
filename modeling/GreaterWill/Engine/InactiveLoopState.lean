import GreaterWill.Engine.Restart
import GreaterWill.Monitor.Frontmatter
import GreaterWill.Lib.Words

/-!
# The checkpoint path of an inactive loop state

`try_checkpoint_from_inactive` of `engine/single_session/util.rs` reads the checkpoint path out of
the loop state file on its own. It goes on after a line with an empty or null value, where
`parse_yaml_str` stops; on a file that is active both give the same path, and the value of `active`
makes no difference to the second.
-/

namespace GreaterWill.SingleSession

open Text

variable {files : Files} {workingDir : PathBuf} {state : ArcLoopState} {contents : String}
  {yaml s v : List Char}

/-! ## The checkpoint path -/

/-- The path of a value, relative to the working directory unless it is absolute. -/
def resolvePath (workingDir : PathBuf) (path : String) : PathBuf :=
  if PathBuf.isAbsolute path then path else workingDir.join path

theorem checkpointPathOfLine_eq (workingDir : PathBuf) (line : List Char) :
    checkpointPathOfLine workingDir line = ((lineValue "checkpoint_path" line).bind
      yamlScalar).map (resolvePath workingDir) := by
  have hkey : "checkpoint_path:" = "checkpoint_path" ++ ":" := rfl
  rw [checkpointPathOfLine, hkey, stripPrefix_key]
  cases lineValue "checkpoint_path" line with
  | none => rfl
  | some value =>
    rw [Option.map_some, Option.bind_some, Option.bind_some, yamlScalar]
    dsimp only
    rw [unquote_rdropWhile]
    split
    · rfl
    · exact (apply_ite some _ _ _).symm

theorem findSome?_checkpointPathOfLine (workingDir : PathBuf) (yaml : List Char) :
    (lines yaml).findSome? (checkpointPathOfLine workingDir) =
      ((splitLines yaml).findSome? fun line =>
        (lineValue "checkpoint_path" line).bind yamlScalar).map (resolvePath workingDir) := by
  rw [List.map_findSome?]
  have htrim := findSome?_lines (f := fun line =>
    (stripPrefix "checkpoint_path:".toList line).bind fun value =>
      let val := String.ofList (unquote value)
      if val.isEmpty || val == "null" then none
      else if PathBuf.isAbsolute val then some val
      else some (workingDir.join val)) rfl yaml
  refine htrim.trans ?_
  congr 1
  funext line
  exact checkpointPathOfLine_eq workingDir line

/-- The first value counts for both readers, unless it is empty or null. -/
theorem findSome?_of_parseYamlStr {key path : String} (h : parseYamlStr yaml key = some path) :
    ((splitLines yaml).findSome? fun line => (lineValue key line).bind yamlScalar) =
      some path := by
  rw [parseYamlStr_eq, Option.bind_eq_some_iff] at h
  obtain ⟨value, hvalue, hpath⟩ := h
  obtain ⟨above, line, below, heq, hline, habove⟩ := List.findSome?_eq_some_iff.mp hvalue
  rw [List.findSome?_eq_some_iff]
  refine ⟨above, line, below, heq, ?_, fun l hl => ?_⟩
  · rw [hline, Option.bind_some, hpath]
  · rw [habove l hl, Option.bind_none]

theorem parse_of_active (h : parseArcLoopState contents = .active state) :
    ∃ yaml, extractFrontmatter contents = some yaml ∧ parseYamlStr yaml "active" = some "true" ∧
      parseYamlStr yaml "checkpoint_path" = some state.checkpointPath := by
  rw [parseArcLoopState] at h
  cases hyaml : extractFrontmatter contents with
  | none =>
    rw [hyaml] at h
    cases h
  | some yaml =>
    rw [hyaml] at h
    dsimp only at h
    split at h
    · cases h
    · cases h
    · next hactive =>
      rw [parseYamlBool] at hactive
      split at hactive
      · next htrue =>
        split at h
        · next hcheckpoint _ =>
          cases h
          exact ⟨yaml, rfl, htrue, hcheckpoint⟩
        · cases h
      · cases hactive
      · cases hactive

/-- What the reader of inactive files makes of a frontmatter. -/
theorem tryCheckpointFromInactive_eq (hread : files.readToString (loopStateFile workingDir) =
    some contents) (hyaml : extractFrontmatter contents = some yaml) :
    tryCheckpointFromInactive files workingDir =
      (lines yaml).findSome? (checkpointPathOfLine workingDir) := by
  rw [tryCheckpointFromInactive, hread, Option.bind_some, hyaml, Option.bind_some]

/-- On an active file, both readers give the same path. -/
theorem tryCheckpointFromInactive_of_active
    (hread : files.readToString (loopStateFile workingDir) = some contents)
    (h : parseArcLoopState contents = .active state) :
    tryCheckpointFromInactive files workingDir = some (state.resolveCheckpointPath workingDir) := by
  obtain ⟨yaml, hyaml, -, hpath⟩ := parse_of_active h
  rw [tryCheckpointFromInactive_eq hread hyaml, findSome?_checkpointPathOfLine,
    findSome?_of_parseYamlStr hpath]
  rfl

/-! ## Flipping the value of `active` -/

/-- The first `true` replaced by `false`. -/
def falsify (s : List Char) : List Char :=
  match before "true".toList s with
  | none => s
  | some lead => lead ++ "false".toList ++ s.drop (lead.length + 4)

/-- A line of `active` with its value flipped. -/
def flipLine (line : List Char) : Option (List Char) :=
  (lineValue "active" line).map fun value =>
    line.takeWhile isWhitespace ++ "active:".toList ++ falsify value

/-- The first line of `active` flipped. -/
def flipLines : List (List Char) → List (List Char)
  | [] => []
  | line :: rest =>
    match flipLine line with
    | some flipped => flipped :: rest
    | none => line :: flipLines rest

/-- The file with the value of `active` in its frontmatter flipped from true to false. -/
def flipActive (contents : String) : String :=
  let text := contents.toList.dropWhile isWhitespace
  match stripPrefix "---".toList text with
  | none => contents
  | some text =>
    match before "---".toList text with
    | none => contents
    | some yaml => String.ofList (contents.toList.takeWhile isWhitespace ++ "---".toList ++
        joinWith '\n' (flipLines (splitLines yaml)) ++ text.drop yaml.length)

/-- A word without blanks and quotes. -/
def Bare (m : List Char) : Prop :=
  ∀ c ∈ m, isWhitespace c = false ∧ c ≠ '"' ∧ c ≠ '\''

theorem bare_true : Bare "true".toList :=
  List.forall_iff_forall_mem.mp (by decide)

theorem bare_false : Bare "false".toList :=
  List.forall_iff_forall_mem.mp (by decide)

/-- Within its blanks and quotes, a value can be replaced by a bare word. -/
theorem exists_unquote (v : List Char) : ∃ lead tail, v = lead ++ unquote v ++ tail ∧
    (∀ c ∈ lead, isWhitespace c = true ∨ c = '"' ∨ c = '\'') ∧
    ∀ m, Bare m → unquote (lead ++ m ++ tail) = m := by
  obtain ⟨a, b, hv, ha, hb⟩ := exists_trimMatches isWhitespace v
  obtain ⟨a', b', hv', ha', hb'⟩ := exists_trimMatches (· == '"') (trim v)
  obtain ⟨a'', b'', hv'', ha'', hb''⟩ :=
    exists_trimMatches (· == '\'') (trimMatches (· == '"') (trim v))
  simp only [beq_iff_eq] at ha' hb' ha'' hb''
  refine ⟨a ++ a' ++ a'', b'' ++ b' ++ b, ?_, ?_, ?_⟩
  · calc v = a ++ (a' ++ (a'' ++ unquote v ++ b'') ++ b') ++ b := by
          rw [unquote, ← hv'', ← hv']
          exact hv
      _ = a ++ a' ++ a'' ++ unquote v ++ (b'' ++ b' ++ b) := by simp
  · intro c hc
    rcases List.mem_append.mp hc with hc | hc
    · rcases List.mem_append.mp hc with hc | hc
      · exact .inl (ha c hc)
      · exact .inr (.inl (ha' c hc))
    · exact .inr (.inr (ha'' c hc))
  · intro m hm
    have hquotes : ∀ c ∈ a'' ++ m ++ b'', (c == '"') = false := by
      simp only [List.forall_mem_append]
      refine ⟨⟨fun c hc => ?_, fun c hc => beq_eq_false_iff_ne.mpr (hm c hc).2.1⟩, fun c hc => ?_⟩
      · rw [ha'' c hc]
        rfl
      · rw [hb'' c hc]
        rfl
    have hspace : ∀ c ∈ a' ++ (a'' ++ m ++ b'') ++ b', isWhitespace c = false := by
      simp only [List.forall_mem_append]
      refine ⟨⟨fun c hc => ?_, ⟨fun c hc => ?_, fun c hc => (hm c hc).1⟩, fun c hc => ?_⟩,
        fun c hc => ?_⟩
      · rw [ha' c hc]
        rfl
      · rw [ha'' c hc]
        rfl
      · rw [hb'' c hc]
        rfl
      · rw [hb' c hc]
        rfl
    have hassoc : a ++ a' ++ a'' ++ m ++ (b'' ++ b' ++ b) =
        a ++ (a' ++ (a'' ++ m ++ b'') ++ b') ++ b := by simp
    rw [hassoc, unquote, trim, trimMatches_append ha hb (trimMatches_of_forall hspace),
      trimMatches_append (by simpa using ha') (by simpa using hb') (trimMatches_of_forall hquotes),
      trimMatches_append (by simpa using ha'') (by simpa using hb'')]
    exact trimMatches_of_forall fun c hc => beq_eq_false_iff_ne.mpr (hm c hc).2.2

/-- The line of `active` in a frontmatter where it is true. -/
structure ActiveLine (yaml : List Char) (above below : List (List Char))
    (space lead tail : List Char) : Prop where
  split : splitLines yaml =
    above ++ (space ++ "active:".toList ++ (lead ++ "true".toList ++ tail)) :: below
  first : ∀ l ∈ above, lineValue "active" l = none
  blank : ∀ c ∈ space, isWhitespace c = true
  quotes : ∀ c ∈ lead, isWhitespace c = true ∨ c = '"' ∨ c = '\''
  value : ∀ m, Bare m → unquote (lead ++ m ++ tail) = m

theorem exists_activeLine (h : parseYamlStr yaml "active" = some "true") :
    ∃ above below space lead tail, ActiveLine yaml above below space lead tail := by
  rw [parseYamlStr_eq, Option.bind_eq_some_iff] at h
  obtain ⟨v, hv, htrue⟩ := h
  obtain ⟨above, line, below, heq, hline, habove⟩ := List.findSome?_eq_some_iff.mp hv
  obtain ⟨lead, tail, hvalue, hlead, hbare⟩ := exists_unquote v
  have hunquote : unquote v = "true".toList := by
    rw [yamlScalar] at htrue
    split at htrue
    · cases htrue
    · rw [← Option.some.inj htrue, String.toList_ofList]
  rw [hunquote] at hvalue
  refine ⟨above, below, line.takeWhile isWhitespace, lead, tail, ?_, habove,
    fun c hc => List.mem_takeWhile_imp hc, hlead, hbare⟩
  have hkey : "active" ++ ":" = "active:" := rfl
  have hline' := lineValue_eq_some.mp hline
  rw [hkey] at hline'
  rw [heq, ← hvalue, ← hline']

namespace ActiveLine
variable {above below : List (List Char)} {space lead tail : List Char}

/-- The frontmatter with the value of the line replaced. -/
def replaced (above below : List (List Char)) (space lead tail m : List Char) : List Char :=
  joinWith '\n' (above ++ (space ++ "active:".toList ++ (lead ++ m ++ tail)) :: below)

theorem lineValue_self (h : ActiveLine yaml above below space lead tail) (v : List Char) :
    lineValue "active" (space ++ "active:".toList ++ v) = some v := by
  rw [lineValue, List.append_assoc, dropWhile_append_of_all h.blank]
  exact stripPrefix_append "active:".toList v

theorem lineValue_checkpoint_path (h : ActiveLine yaml above below space lead tail)
    (v : List Char) : lineValue "checkpoint_path" (space ++ "active:".toList ++ v) = none := by
  rw [lineValue, List.append_assoc, dropWhile_append_of_all h.blank]
  rfl

theorem splitLines_replaced (h : ActiveLine yaml above below space lead tail) {m : List Char}
    (hm : '\n' ∉ m) : splitLines (replaced above below space lead tail m) =
      above ++ (space ++ "active:".toList ++ (lead ++ m ++ tail)) :: below := by
  rw [replaced, splitLines_eq_append]
  have hlines := (splitLines_eq_append.mp h.split).2
  simp only [List.forall_mem_append, List.forall_mem_cons] at hlines ⊢
  simp only [List.mem_append, not_or] at hlines ⊢
  obtain ⟨habove, ⟨⟨hspace, hkey⟩, ⟨hlead, -⟩, htail⟩, hbelow⟩ := hlines
  exact ⟨joinWith_append '\n' above _ below, habove, ⟨⟨hspace, hkey⟩, ⟨hlead, hm⟩, htail⟩, hbelow⟩

theorem replaced_true (h : ActiveLine yaml above below space lead tail) :
    replaced above below space lead tail "true".toList = yaml := by
  rw [replaced, joinWith_append]
  exact (splitLines_eq_append.mp h.split).1.symm

theorem falsify_value (h : ActiveLine yaml above below space lead tail) :
    falsify (lead ++ "true".toList ++ tail) = lead ++ "false".toList ++ tail := by
  have hdisjoint : ∀ c ∈ lead, c ∉ "true".toList := by
    intro c hc hmem
    obtain ⟨hletter, hquote, hquote'⟩ := bare_true c hmem
    rcases h.quotes c hc with hspace | rfl | rfl
    · rw [hletter] at hspace
      cases hspace
    · exact hquote rfl
    · exact hquote' rfl
  have hbefore : before "true".toList (lead ++ "true".toList ++ tail) = some lead := by
    rw [List.append_assoc, before_append_of_disjoint (by decide) hdisjoint, before_append_self,
      Option.map_some, List.append_nil]
  have hlength : (lead ++ "true".toList).length = lead.length + 4 := List.length_append
  rw [falsify, hbefore]
  dsimp only
  rw [← hlength, List.drop_left]

/-- What flipping the lines gives. -/
theorem flipLines_eq (h : ActiveLine yaml above below space lead tail) :
    joinWith '\n' (flipLines (splitLines yaml)) =
      replaced above below space lead tail "false".toList := by
  have hflip : ∀ line, lineValue "active" line = none → flipLine line = none := by
    intro line hline
    rw [flipLine, hline, Option.map_none]
  have hself : flipLine (space ++ "active:".toList ++ (lead ++ "true".toList ++ tail)) =
      some (space ++ "active:".toList ++ (lead ++ "false".toList ++ tail)) := by
    have htake : (space ++ "active:".toList ++ (lead ++ "true".toList ++ tail)).takeWhile
        isWhitespace = space := by
      rw [List.append_assoc, List.takeWhile_append_of_pos h.blank]
      exact List.append_nil space
    rw [flipLine, h.lineValue_self, Option.map_some, htake, h.falsify_value]
  have hlines : ∀ above, (∀ l ∈ above, lineValue "active" l = none) →
      flipLines (above ++ (space ++ "active:".toList ++ (lead ++ "true".toList ++ tail)) :: below) =
        above ++ (space ++ "active:".toList ++ (lead ++ "false".toList ++ tail)) :: below := by
    intro above habove
    induction above with
    | nil => rw [List.nil_append, flipLines, hself]; rfl
    | cons l above ih =>
      obtain ⟨hl, habove⟩ := List.forall_mem_cons.mp habove
      rw [List.cons_append, flipLines, hflip l hl, ih habove]
      rfl
  rw [h.split, hlines above h.first, replaced]

theorem parseYamlStr_replaced (h : ActiveLine yaml above below space lead tail) :
    parseYamlStr (replaced above below space lead tail "false".toList) "active" =
      some "false" := by
  have hfind : (splitLines (replaced above below space lead tail "false".toList)).findSome?
      (lineValue "active") = some (lead ++ "false".toList ++ tail) := by
    rw [h.splitLines_replaced (by decide), List.findSome?_eq_some_iff]
    exact ⟨above, _, below, rfl, h.lineValue_self _, h.first⟩
  rw [parseYamlStr_eq, hfind, Option.bind_some, yamlScalar, h.value _ bare_false]
  rfl

/-- The line of `active` is none of `checkpoint_path`. -/
theorem findSome?_replaced (h : ActiveLine yaml above below space lead tail)
    (workingDir : PathBuf) :
    (lines (replaced above below space lead tail "false".toList)).findSome?
      (checkpointPathOfLine workingDir) =
    (lines yaml).findSome? (checkpointPathOfLine workingDir) := by
  rw [findSome?_checkpointPathOfLine, findSome?_checkpointPathOfLine, h.split,
    h.splitLines_replaced (by decide), List.findSome?_append, List.findSome?_append,
    List.findSome?_cons, List.findSome?_cons, h.lineValue_checkpoint_path,
    h.lineValue_checkpoint_path, Option.bind_none]

/-- The frontmatter still ends where it did. -/
theorem before_replaced (h : ActiveLine yaml above below space lead tail) {rest : List Char}
    (hyaml : before "---".toList (yaml ++ rest) = some yaml) :
    before "---".toList (replaced above below space lead tail "false".toList ++ rest) =
      some (replaced above below space lead tail "false".toList) := by
  have hreplaced : ∀ m : List Char, replaced above below space lead tail m =
      above.flatMap (· ++ ['\n']) ++ space ++ "active:".toList ++ lead ++ m ++
        (tail ++ below.flatMap ('\n' :: ·)) := by
    intro m
    rw [replaced, joinWith_append]
    simp
  rw [← h.replaced_true, hreplaced] at hyaml
  rw [hreplaced]
  rw [List.append_assoc _ _ rest] at hyaml ⊢
  have htrue : ∀ c ∈ "true".toList, c ∉ "---".toList := List.forall_iff_forall_mem.mp (by decide)
  have hfalse : ∀ c ∈ "false".toList, c ∉ "---".toList := List.forall_iff_forall_mem.mp (by decide)
  exact before_replace (by decide) htrue (by decide) hfalse (by decide) hyaml

end ActiveLine

theorem extractFrontmatter_flipActive {above below : List (List Char)}
    {space lead tail : List Char} (hyaml : extractFrontmatter contents = some yaml)
    (h : ActiveLine yaml above below space lead tail) :
    extractFrontmatter (flipActive contents) =
      some (ActiveLine.replaced above below space lead tail "false".toList) := by
  rw [extractFrontmatter_eq, Option.bind_eq_some_iff] at hyaml
  obtain ⟨text, htext, hyaml⟩ := hyaml
  have hflip : flipActive contents = String.ofList (contents.toList.takeWhile isWhitespace ++
      ("---".toList ++ (ActiveLine.replaced above below space lead tail "false".toList ++
        text.drop yaml.length))) := by
    rw [flipActive, htext]
    dsimp only
    rw [hyaml]
    dsimp only
    rw [h.flipLines_eq, List.append_assoc, List.append_assoc]
  have hsplit : text = yaml ++ text.drop yaml.length := by
    obtain ⟨rest, rfl⟩ := before_eq_some_append hyaml
    rw [List.append_assoc, List.drop_left]
  rw [hsplit] at hyaml
  have htoList := (congrArg String.toList hflip).trans String.toList_ofList
  rw [extractFrontmatter_eq, htoList,
    dropWhile_append_of_all fun c hc => List.mem_takeWhile_imp hc]
  have hdash : ∀ t, ("---".toList ++ t).dropWhile isWhitespace = "---".toList ++ t := fun _ => rfl
  rw [hdash, stripPrefix_append, Option.bind_some, h.before_replaced hyaml]

/-- Flipping `active` makes the file inactive and leaves the path to the other reader. -/
theorem flipActive_of_active (h : parseArcLoopState contents = .active state) :
    parseArcLoopState (flipActive contents) = .inactive ∧
      ∃ yaml yaml', extractFrontmatter contents = some yaml ∧
        extractFrontmatter (flipActive contents) = some yaml' ∧
        ∀ workingDir, (lines yaml').findSome? (checkpointPathOfLine workingDir) =
          (lines yaml).findSome? (checkpointPathOfLine workingDir) := by
  obtain ⟨yaml, hyaml, htrue, -⟩ := parse_of_active h
  obtain ⟨above, below, space, lead, tail, hline⟩ := exists_activeLine htrue
  have hflipped : extractFrontmatter (flipActive contents) =
      some (ActiveLine.replaced above below space lead tail "false".toList) :=
    extractFrontmatter_flipActive hyaml hline
  refine ⟨?_, yaml, _, hyaml, hflipped, hline.findSome?_replaced⟩
  rw [parseArcLoopState, hflipped]
  dsimp only
  rw [parseYamlBool, hline.parseYamlStr_replaced]
  rfl

/-- The reader of inactive files agrees with the parser, also when `active` is flipped. -/
theorem inactive_reader_agrees (files : Files) (workingDir : PathBuf) (contents : String)
    (state : ArcLoopState)
    (hread : files.readToString (loopStateFile workingDir) = some contents)
    (hactive : readArcLoopState files workingDir = .active state) :
    tryCheckpointFromInactive files workingDir = some (state.resolveCheckpointPath workingDir) ∧
      let flipped := files.insert (loopStateFile workingDir) (some (flipActive contents))
      readArcLoopState flipped workingDir = .inactive ∧
        tryCheckpointFromInactive flipped workingDir =
          tryCheckpointFromInactive files workingDir := by
  rw [readArcLoopState, hread] at hactive
  obtain ⟨hinactive, yaml, yaml', hyaml, hyaml', hsame⟩ := flipActive_of_active hactive
  have hflipped := Files.readToString_insert files (loopStateFile workingDir) (flipActive contents)
  refine ⟨tryCheckpointFromInactive_of_active hread hactive, ?_, ?_⟩
  · rw [readArcLoopState_insert]
    exact hinactive
  · rw [tryCheckpointFromInactive_eq hflipped hyaml', tryCheckpointFromInactive_eq hread hyaml,
      hsame]

private def activeText : String :=
  "---\nactive: \"true\"\ncheckpoint_path: c.json\nplan_file: p.md\n---\n"

private def activeFile : Files :=
  (∅ : Files).insert (loopStateFile "/repo") (some activeText)

/-- A relative path in a file whose `active` has quotes. -/
theorem quoted_active_flipped :
    tryCheckpointFromInactive activeFile "/repo" = some "/repo/c.json" ∧
      readArcLoopState (activeFile.insert (loopStateFile "/repo") (some (flipActive activeText)))
        "/repo" = .inactive := by
  have hread : activeFile.readToString (loopStateFile "/repo") = some activeText :=
    Files.readToString_insert ∅ _ activeText
  have hactive : readArcLoopState activeFile "/repo" = .active {
      active := true
      checkpointPath := "c.json"
      planFile := "p.md"
      configDir := ""
      ownerPid := ""
      sessionId := ""
      branch := ""
      iteration := 0
      maxIterations := 50 } := by
    decide +kernel
  obtain ⟨hpath, hinactive, -⟩ := inactive_reader_agrees activeFile "/repo" _ _ hread hactive
  refine ⟨hpath.trans ?_, hinactive⟩
  decide +kernel

end GreaterWill.SingleSession
