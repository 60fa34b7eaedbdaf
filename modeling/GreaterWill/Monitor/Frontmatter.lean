import GreaterWill.Monitor.LoopState
import GreaterWill.Lib.TextLemmas
import GreaterWill.Lib.Digits

/-!
# The frontmatter of the loop state

What `extract_frontmatter` and `parse_yaml_str` of `monitor/loop_state.rs` find in a text, line by
line, and how much of a file of `key: value` lines they read: the frontmatter ends at the first
`---` there is, which a path or a branch name may have in it.
-/

namespace GreaterWill

open Text

theorem Files.readToString_insert (files : Files) (path : PathBuf) (contents : String) :
    Files.readToString (files.insert path (some contents)) path = some contents := by
  rw [readToString, Finmap.lookup_insert]
  rfl

theorem readArcLoopState_insert (files : Files) (workingDir : PathBuf) (contents : String) :
    readArcLoopState (files.insert (loopStateFile workingDir) (some contents)) workingDir =
      parseArcLoopState contents := by
  rw [readArcLoopState, Files.readToString_insert]

/-! ## Lines and values -/

/-- What stands behind a key and its colon, the blanks at the end included. -/
def lineValue (key : String) (line : List Char) : Option (List Char) :=
  stripPrefix (key ++ ":").toList (line.dropWhile isWhitespace)

/-- A value without blanks and quotes, unless it is empty or null. -/
def yamlScalar (value : List Char) : Option String :=
  let val := String.ofList (unquote value)
  if val.isEmpty || val == "null" then none else some val

variable {key : String} {s v line yaml : List Char}

theorem getLast?_key (key : String) : (key ++ ":").toList.getLast? = some ':' := by
  rw [String.toList_append]
  exact List.getLast?_concat

theorem stripPrefix_key (key : String) (line : List Char) :
    stripPrefix (key ++ ":").toList (trim line) =
      (lineValue key line).map (·.rdropWhile isWhitespace) :=
  stripPrefix_trim (getLast?_key key) rfl line

theorem unquote_rdropWhile (v : List Char) :
    unquote (v.rdropWhile isWhitespace) = unquote v := by
  rw [unquote, trim, trimMatches_rdropWhile]
  rfl

/-- The first line of a key counts. -/
theorem parseYamlStr_eq (yaml : List Char) (key : String) : parseYamlStr yaml key =
    ((splitLines yaml).findSome? (lineValue key)).bind yamlScalar := by
  have hlines : ((lines yaml).findSome? fun line => stripPrefix (key ++ ":").toList (trim line)) =
      ((splitLines yaml).findSome? (lineValue key)).map (·.rdropWhile isWhitespace) := by
    rw [findSome?_lines (f := stripPrefix (key ++ ":").toList), List.map_findSome?]
    · congr 1
      funext line
      exact stripPrefix_key key line
    · rw [Option.eq_none_iff_forall_ne_some]
      intro t ht
      simpa using stripPrefix_eq_some.mp ht
  rw [parseYamlStr, hlines]
  cases (splitLines yaml).findSome? (lineValue key) with
  | none => rfl
  | some v =>
    rw [Option.map_some, Option.bind_some]
    dsimp only
    rw [unquote_rdropWhile]
    rfl

/-- The frontmatter stands between the `---` the text begins with and the next one. -/
theorem extractFrontmatter_eq (content : String) : extractFrontmatter content =
    (stripPrefix "---".toList (content.toList.dropWhile isWhitespace)).bind
      (before "---".toList) := by
  have hspace : ∀ c, isWhitespace c = true → c ∉ "---".toList := by
    intro c hc hmem
    have hdash : c = '-' := by simpa using hmem
    rw [hdash] at hc
    cases hc
  rw [extractFrontmatter, stripPrefix_trim (c := '-') (by decide) rfl]
  cases stripPrefix "---".toList (content.toList.dropWhile isWhitespace) with
  | none => rfl
  | some t =>
    rw [Option.map_some, Option.bind_some, Option.bind_some,
      before_rdropWhile (by decide) hspace]

theorem lineValue_eq_some : lineValue key line = some v ↔
    line = line.takeWhile isWhitespace ++ (key ++ ":").toList ++ v := by
  rw [lineValue, stripPrefix_eq_some]
  conv_rhs => lhs; rw [← List.takeWhile_append_dropWhile (p := isWhitespace) (l := line)]
  rw [List.append_assoc, List.append_cancel_left_eq]

/-! ## Files of `key: value` lines -/

/-- The `---` that begins and ends a frontmatter. -/
abbrev marker : List Char := "---".toList

/-- On one line, without a colon and outer blanks. -/
structure IsKey (key : String) : Prop where
  colon : ':' ∉ key.toList
  line : '\n' ∉ key.toList
  trimmed : trim key.toList = key.toList

/-- On one line, without quotes and outer blanks. -/
structure IsValue (value : String) : Prop where
  line : '\n' ∉ value.toList
  quotes : '"' ∉ value.toList ∧ '\'' ∉ value.toList
  trimmed : trim value.toList = value.toList

/-- A frontmatter as it is meant. -/
structure Frontmatter where
  entries : List (String × String)
  /-- What stands behind the second `---`. -/
  tail : String
  distinct : (entries.map Prod.fst).Nodup
  keys : ∀ e ∈ entries, IsKey e.1
  values : ∀ e ∈ entries, IsValue e.2
  ended : tail = "" ∨ ∃ body, tail = "\n" ++ body

/-- The line of an entry. -/
def entryLine (e : String × String) : List Char := e.1.toList ++ ':' :: ' ' :: e.2.toList

/-- The key is there, and no line up to its own has `---` in it. -/
def EarlyIn (k : String) (es : List (String × String)) : Prop :=
  ∃ above v below, es = above ++ (k, v) :: below ∧
    ∀ e ∈ above ++ [(k, v)], contains (entryLine e) marker = false

namespace Frontmatter
variable (f : Frontmatter)

/-- The text of the file. -/
def text : String :=
  String.ofList (marker ++ '\n' :: (f.entries.flatMap fun e => entryLine e ++ ['\n']) ++ marker ++
    f.tail.toList)

/-- The value of a key; an empty one and YAML's `null` are none. -/
def given (key : String) : Option String :=
  (f.entries.lookup key).filter fun v => v ≠ "" ∧ v ≠ "null"

/-- The key stands before any `---`. -/
abbrev Early (key : String) : Prop := EarlyIn key f.entries

/-- What was read is what the file gives. -/
structure ReadAsGiven (read : LoopStateRead) : Prop where
  active : f.given "active" = some "true" → ∀ checkpointPath planFile,
    f.given "checkpoint_path" = some checkpointPath → f.given "plan_file" = some planFile →
    ∃ state, read = .active state ∧ state.checkpointPath = checkpointPath ∧
      state.planFile = planFile ∧ state.branch = (f.given "branch").getD "" ∧
      state.sessionId = (f.given "session_id").getD "" ∧
      state.ownerPid = (f.given "owner_pid").getD "" ∧
      (∀ n, ((f.given "iteration").bind fun s => parseU32 s.toList) = some n →
        state.iteration = n) ∧
      ∀ n, ((f.given "max_iterations").bind fun s => parseU32 s.toList) = some n →
        state.maxIterations = n
  inactive : f.given "active" = some "false" → read = .inactive
  missing : read = .missing → (f.given "active" ≠ some "true" ∧ f.given "active" ≠ some "false") ∨
    f.given "checkpoint_path" = none ∨ f.given "plan_file" = none

/-- Every value that matters stands before the first `---` in a line; a number may be behind it if
it is the default. -/
structure Legible : Prop where
  inactive : f.given "active" = some "false" → f.Early "active"
  active : f.given "active" = some "true" → f.given "checkpoint_path" ≠ none →
    f.given "plan_file" ≠ none →
    (∀ key ∈ ["active", "checkpoint_path", "plan_file"], f.Early key) ∧
      (∀ key ∈ ["branch", "session_id", "owner_pid"], f.given key ≠ none → f.Early key) ∧
      (∀ n, ((f.given "iteration").bind fun s => parseU32 s.toList) = some n → n ≠ 0 →
        f.Early "iteration") ∧
      ∀ n, ((f.given "max_iterations").bind fun s => parseU32 s.toList) = some n → n ≠ 50 →
        f.Early "max_iterations"

end Frontmatter

/-! ## The lines that are read -/

/-- The lines up to the first `---`, of the line it is in what stands before it. -/
def readableLines : List (List Char) → List (List Char)
  | [] => []
  | line :: rest =>
    match before marker line with
    | some cut => [cut]
    | none => line :: readableLines rest

/-- The reader stops at the first `---` of the lines, or at the one behind them. -/
theorem before_lines {ls : List (List Char)} (hls : ∀ l ∈ ls, '\n' ∉ l) (rest : List Char) :
    ∃ y, before marker (ls.flatMap (· ++ ['\n']) ++ (marker ++ rest)) = some y ∧
      ∀ {α : Type} {f : List Char → Option α}, f [] = none →
        (splitLines y).findSome? f = (readableLines ls).findSome? f := by
  induction ls with
  | nil =>
    refine ⟨[], before_append_self marker rest, fun hnil => ?_⟩
    rw [splitLines, List.findSome?_singleton, hnil]
    rfl
  | cons l ls ih =>
    obtain ⟨hl, hls⟩ := List.forall_mem_cons.mp hls
    obtain ⟨y, hy, hlines⟩ := ih hls
    have hsplit : before marker ((l :: ls).flatMap (· ++ ['\n']) ++ (marker ++ rest)) =
        (before marker l).or (some (l ++ '\n' :: y)) := by
      rw [List.flatMap_cons, List.append_assoc, List.append_assoc, List.singleton_append,
        before_append_cons (by decide) (by decide), hy, Option.map_some]
    rw [hsplit, readableLines]
    cases hcut : before marker l with
    | some cut =>
      have hline : '\n' ∉ cut := by
        obtain ⟨r, hr⟩ := before_eq_some_append hcut
        rw [hr, List.append_assoc, List.mem_append, not_or] at hl
        exact hl.1
      refine ⟨cut, rfl, fun _ => ?_⟩
      rw [splitLines_of_notMem hline]
    | none =>
      refine ⟨l ++ '\n' :: y, rfl, fun hnil => ?_⟩
      rw [splitLines_append hl, List.findSome?_cons, List.findSome?_cons, hlines hnil]

/-! ## Entries -/

section
variable {k : String} {e : String × String} {es : List (String × String)} {t : List Char}

/-- A line is found by its key. -/
theorem lineValue_key (he : IsKey e.1) (hk : ':' ∉ k.toList) (t : List Char) :
    lineValue k (e.1.toList ++ ':' :: t) = if e.1 = k then some t else none := by
  have hdrop : (e.1.toList ++ ':' :: t).dropWhile isWhitespace = e.1.toList ++ ':' :: t := by
    rw [dropWhile_append_cons rfl, dropWhile_of_trimMatches he.trimmed]
  have hcolon : ∀ k : String, (k ++ ":").toList = k.toList ++ [':'] := fun k =>
    String.toList_append
  rw [lineValue, hdrop]
  split
  · next h =>
    rw [h, stripPrefix_eq_some, hcolon, List.append_assoc]
    rfl
  · next h =>
    rw [Option.eq_none_iff_forall_ne_some]
    intro u hu
    rw [stripPrefix_eq_some, hcolon, List.append_assoc, List.singleton_append,
      append_cons_inj he.colon hk] at hu
    exact h (String.toList_inj.mp hu.1)

theorem lineValue_line (he : IsKey e.1) (hk : ':' ∉ k.toList) :
    lineValue k (entryLine e) = if e.1 = k then some (' ' :: e.2.toList) else none :=
  lineValue_key he hk _

theorem before_space (v : List Char) :
    before marker (' ' :: v) = (before marker v).map (' ' :: ·) :=
  before_append_cons (by decide) (by decide) [] v

/-- Of a line with `---` in it, the key has what stands before it. -/
theorem lineValue_cut {cut : List Char} (he : IsKey e.1) (hk : ':' ∉ k.toList)
    (hcut : before marker (entryLine e) = some cut) :
    lineValue k cut = none ∨
      e.1 = k ∧ ∃ q, before marker e.2.toList = some q ∧ lineValue k cut = some (' ' :: q) := by
  rw [entryLine, before_append_cons (by decide) (by decide), before_space] at hcut
  cases hkey : before marker e.1.toList with
  | some q =>
    left
    rw [hkey, Option.some_or, Option.some.injEq] at hcut
    subst hcut
    obtain ⟨r, hr⟩ := before_eq_some_append hkey
    rw [Option.eq_none_iff_forall_ne_some]
    intro u hu
    apply he.colon
    rw [hr, lineValue_eq_some.mp hu, String.toList_append]
    simp
  | none =>
    rw [hkey, Option.none_or, Option.map_map, Option.map_eq_some_iff] at hcut
    obtain ⟨q, hq, rfl⟩ := hcut
    rw [Function.comp_apply, lineValue_key he hk]
    split
    · next h => exact .inr ⟨h, q, hq, rfl⟩
    · exact .inl rfl

/-- The lines of entries. -/
abbrev entryLines (es : List (String × String)) : List (List Char) := es.map entryLine

theorem earlyIn_cons : EarlyIn k (e :: es) ↔
    contains (entryLine e) marker = false ∧ (e.1 = k ∨ EarlyIn k es) := by
  constructor
  · rintro ⟨above, v, below, heq, habove⟩
    cases above with
    | nil =>
      cases heq
      exact ⟨habove _ List.mem_cons_self, .inl rfl⟩
    | cons e' above =>
      cases heq
      obtain ⟨he, habove⟩ := List.forall_mem_cons.mp habove
      exact ⟨he, .inr ⟨above, v, below, rfl, habove⟩⟩
  · rintro ⟨he, rfl | ⟨above, v, below, rfl, habove⟩⟩
    · exact ⟨[], e.2, es, rfl, by simpa using he⟩
    · exact ⟨e :: above, v, below, rfl, List.forall_mem_cons.mpr ⟨he, habove⟩⟩

/-- A key is read if no `---` comes before; otherwise it is not found, or its value is cut. -/
theorem findSome?_entries (hes : ∀ e ∈ es, IsKey e.1) (hk : ':' ∉ k.toList) :
    (EarlyIn k es ∧ ∃ v, es.lookup k = some v ∧
      (readableLines (entryLines es)).findSome? (lineValue k) = some (' ' :: v.toList)) ∨
    ¬ EarlyIn k es ∧ ((readableLines (entryLines es)).findSome? (lineValue k) = none ∨
      ∃ v q, es.lookup k = some v ∧ before marker v.toList = some q ∧
        (readableLines (entryLines es)).findSome? (lineValue k) = some (' ' :: q)) := by
  induction es with
  | nil =>
    refine .inr ⟨?_, .inl rfl⟩
    rintro ⟨above, v, below, heq, -⟩
    simp at heq
  | cons e es ih =>
    obtain ⟨he, hes⟩ := List.forall_mem_cons.mp hes
    have hread : readableLines (entryLines (e :: es)) =
        match before marker (entryLine e) with
        | some cut => [cut]
        | none => entryLine e :: readableLines (entryLines es) := rfl
    cases hcut : before marker (entryLine e) with
    | some cut =>
      rw [hcut] at hread
      refine .inr ⟨?_, ?_⟩
      · rw [earlyIn_cons, contains, hcut]
        exact fun h => Bool.false_ne_true h.1.symm
      · rw [hread, List.findSome?_singleton]
        rcases lineValue_cut he hk hcut with hnone | ⟨rfl, q, hq, hvalue⟩
        · exact .inl hnone
        · exact .inr ⟨e.2, q, List.lookup_cons_self, hq, hvalue⟩
    | none =>
      have hclear : contains (entryLine e) marker = false := by rw [contains, hcut]; rfl
      rw [hcut] at hread
      dsimp only at hread
      by_cases hkey : e.1 = k
      · refine .inl ⟨earlyIn_cons.mpr ⟨hclear, .inl hkey⟩, e.2, ?_, ?_⟩
        · rw [List.lookup_cons, beq_iff_eq.mpr hkey.symm]
        · rw [hread, List.findSome?_cons, lineValue_line he hk, if_pos hkey]
      · have hlookup : (e :: es).lookup k = es.lookup k := by
          rw [List.lookup_cons, beq_eq_false_iff_ne.mpr (Ne.symm hkey)]
        have hearly : EarlyIn k (e :: es) ↔ EarlyIn k es := by
          rw [earlyIn_cons, and_iff_right hclear, or_iff_right hkey]
        have hfind : (readableLines (entryLines (e :: es))).findSome? (lineValue k) =
            (readableLines (entryLines es)).findSome? (lineValue k) := by
          rw [hread, List.findSome?_cons, lineValue_line he hk, if_neg hkey]
        rw [hearly, hlookup, hfind]
        exact ih hes

end

namespace Frontmatter
variable {f : Frontmatter} {k : String} {yaml : List Char}

theorem extractFrontmatter_text (f : Frontmatter) : ∃ yaml, extractFrontmatter f.text = some yaml ∧
    ∀ k : String, (splitLines yaml).findSome? (lineValue k) =
      (readableLines (entryLines f.entries)).findSome? (lineValue k) := by
  have hlines : ∀ l ∈ entryLines f.entries, '\n' ∉ l := by
    intro l hl
    obtain ⟨e, he, rfl⟩ := List.mem_map.mp hl
    simp [entryLine, (f.keys e he).line, (f.values e he).line]
  obtain ⟨y, hy, hfind⟩ := before_lines hlines f.tail.toList
  have htext : f.text.toList = marker ++ ('\n' ::
      ((entryLines f.entries).flatMap (· ++ ['\n']) ++ (marker ++ f.tail.toList))) := by
    unfold text
    rw [String.toList_ofList, entryLines, List.flatMap_map]
    simp
  have hdash : ∀ t, (marker ++ t).dropWhile isWhitespace = marker ++ t := fun _ => rfl
  refine ⟨'\n' :: y, ?_, fun k => ?_⟩
  · rw [extractFrontmatter_eq, htext, hdash, stripPrefix_append, Option.bind_some]
    exact (before_append_cons (by decide) (by decide) [] _).trans (by rw [hy]; rfl)
  · have hnil : lineValue k [] = none := by
      rw [Option.eq_none_iff_forall_ne_some]
      intro t ht
      simpa using lineValue_eq_some.mp ht
    rw [← hfind hnil, splitLines, if_pos rfl, List.findSome?_cons, hnil]

theorem given_eq (f : Frontmatter) (k : String) :
    f.given k = (f.entries.lookup k).filter fun v => v ≠ "" ∧ v ≠ "null" := rfl

/-- A value of the file is read as it is, or not at all. -/
theorem yamlScalar_value {v : String} (hv : IsValue v) :
    yamlScalar (' ' :: v.toList) = (some v).filter fun v => v ≠ "" ∧ v ≠ "null" := by
  have hquote : ∀ q : Char, q ∉ v.toList → trimMatches (· == q) v.toList = v.toList := by
    intro q hq
    apply trimMatches_of_forall
    intro c hc
    rw [beq_eq_false_iff_ne]
    rintro rfl
    exact hq hc
  have hblank : ∀ c ∈ [' '], isWhitespace c = true := List.forall_mem_singleton.mpr rfl
  have hspace : trim (' ' :: v.toList) = v.toList :=
    (trimMatches_append_left hblank v.toList).trans hv.trimmed
  have hunquote : unquote (' ' :: v.toList) = v.toList := by
    rw [unquote, hspace, hquote _ hv.quotes.1, hquote _ hv.quotes.2]
  rw [yamlScalar, hunquote, String.ofList_toList]
  by_cases hempty : v = ""
  · subst hempty
    rfl
  · by_cases hnull : v = "null"
    · subst hnull
      rfl
    · rw [Option.filter_some]
      simp [hempty, hnull]

/-- A value that was cut is another one. -/
theorem yamlScalar_cut {v : String} {q : List Char} (hq : before marker v.toList = some q) :
    yamlScalar (' ' :: q) ≠ some v := by
  obtain ⟨r, hr⟩ := before_eq_some_append hq
  intro h
  have hval : unquote (' ' :: q) = v.toList := by
    rw [yamlScalar] at h
    split at h
    · cases h
    · rw [← Option.some.inj h, String.toList_ofList]
  have hle : (unquote (' ' :: q)).length ≤ q.length + 1 :=
    (length_trimMatches_le _ _).trans ((length_trimMatches_le _ _).trans
      (length_trimMatches_le _ _))
  have hmarker : marker.length = 3 := rfl
  rw [hval, hr, List.length_append, List.length_append, hmarker] at hle
  omega

/-- What is read for a key is what the file gives if no `---` comes before or the file gives
nothing; otherwise it is something else, and nothing if the value has no `---`. -/
theorem parseYamlStr_cases (hyaml : ∀ k : String, (splitLines yaml).findSome? (lineValue k) =
      (readableLines (entryLines f.entries)).findSome? (lineValue k)) (hk : ':' ∉ k.toList) :
    (f.Early k ∨ f.given k = none) ∧ parseYamlStr yaml k = f.given k ∨
      ¬ f.Early k ∧ f.given k ≠ none ∧ parseYamlStr yaml k ≠ f.given k ∧
        ∀ v, f.given k = some v → contains v.toList marker = false →
          parseYamlStr yaml k = none := by
  rw [parseYamlStr_eq, hyaml]
  rcases findSome?_entries f.keys hk with ⟨hearly, v, hlookup, hfind⟩ |
    ⟨hearly, hfind | ⟨v, q, hlookup, hq, hfind⟩⟩
  · left
    have hvalue : IsValue v := by
      obtain ⟨above, below, hentries, -⟩ := List.lookup_eq_some_iff.mp hlookup
      exact f.values (k, v) (hentries ▸ List.mem_append_right above List.mem_cons_self)
    refine ⟨.inl hearly, ?_⟩
    rw [hfind, Option.bind_some, yamlScalar_value hvalue, given_eq, hlookup]
  · rw [hfind, Option.bind_none]
    by_cases hgiven : f.given k = none
    · exact .inl ⟨.inr hgiven, hgiven.symm⟩
    · exact .inr ⟨hearly, hgiven, Ne.symm hgiven, fun _ _ _ => rfl⟩
  · right
    have hmarker : contains v.toList marker = true := by
      rw [contains, hq]
      rfl
    have hgiven : f.given k = some v := by
      have hempty : v ≠ "" := by
        rintro rfl
        cases hmarker
      have hnull : v ≠ "null" := by
        rintro rfl
        cases hmarker
      rw [given_eq, hlookup, Option.filter_some]
      simp [hempty, hnull]
    rw [hfind, Option.bind_some, hgiven]
    refine ⟨hearly, Option.some_ne_none v, yamlScalar_cut hq, fun v' hv' hclear => ?_⟩
    rw [← Option.some.inj hv', hmarker] at hclear
    cases hclear

/-! ## The state that is read -/

section
variable {contents : String}

/-- The state with the values that are read. -/
def stateOf (yaml : List Char) (checkpointPath planFile : String) : ArcLoopState where
  active := true
  checkpointPath
  planFile
  configDir := (parseYamlStr yaml "config_dir").getD ""
  ownerPid := (parseYamlStr yaml "owner_pid").getD ""
  sessionId := (parseYamlStr yaml "session_id").getD ""
  branch := (parseYamlStr yaml "branch").getD ""
  iteration := ((parseYamlStr yaml "iteration").bind fun s => parseU32 s.toList).getD 0
  maxIterations := ((parseYamlStr yaml "max_iterations").bind fun s => parseU32 s.toList).getD 50

theorem parse_true (hyaml : extractFrontmatter contents = some yaml)
    (h : parseYamlStr yaml "active" = some "true") : parseArcLoopState contents =
      match parseYamlStr yaml "checkpoint_path", parseYamlStr yaml "plan_file" with
      | some checkpointPath, some planFile => .active (stateOf yaml checkpointPath planFile)
      | _, _ => .missing := by
  rw [parseArcLoopState, hyaml]
  dsimp only
  rw [parseYamlBool, h]
  rfl

theorem parse_false (hyaml : extractFrontmatter contents = some yaml)
    (h : parseYamlStr yaml "active" = some "false") : parseArcLoopState contents = .inactive := by
  rw [parseArcLoopState, hyaml]
  dsimp only
  rw [parseYamlBool, h]
  rfl

theorem parse_ill_formed (hyaml : extractFrontmatter contents = some yaml)
    (htrue : parseYamlStr yaml "active" ≠ some "true")
    (hfalse : parseYamlStr yaml "active" ≠ some "false") :
    parseArcLoopState contents = .missing := by
  have hbool : parseYamlBool yaml "active" = none := by
    rw [parseYamlBool]
    split
    · next h => exact absurd h htrue
    · next h => exact absurd h hfalse
    · rfl
  rw [parseArcLoopState, hyaml]
  dsimp only
  rw [hbool]

end

/-- A number has no `---` in it. -/
theorem clear_of_parseU32 {v : String} {n : UInt32} (h : parseU32 v.toList = some n) :
    contains v.toList marker = false := by
  obtain ⟨m, hm, -⟩ := Option.map_eq_some_iff.mp h
  have hdigits := digit_or_plus_of_parseDigits (Option.filter_eq_some_iff.mp hm).1
  rw [contains, Option.isSome_eq_false_iff, Option.isNone_iff_eq_none,
    Option.eq_none_iff_forall_ne_some]
  intro q hq
  obtain ⟨r, hr⟩ := before_eq_some_append hq
  have hdash : '-' ∈ v.toList := by
    rw [hr]
    exact List.mem_append_left _ (List.mem_append_right _ List.mem_cons_self)
  rcases hdigits '-' hdash with hdigit | hplus
  · cases hdigit
  · exact absurd hplus (by decide)

section
variable (hread : ∀ k : String, (splitLines yaml).findSome? (lineValue k) =
  (readableLines (entryLines f.entries)).findSome? (lineValue k))
include hread

theorem read_iff (hk : ':' ∉ k.toList) :
    parseYamlStr yaml k = f.given k ↔ f.Early k ∨ f.given k = none := by
  rcases parseYamlStr_cases hread hk with ⟨hor, heq⟩ | ⟨hearly, hgiven, hne, -⟩
  · exact iff_of_true heq hor
  · exact iff_of_false hne (not_or.mpr ⟨hearly, hgiven⟩)

theorem read_of_given (hk : ':' ∉ k.toList) {v : String} (hgiven : f.given k = some v) :
    parseYamlStr yaml k = some v ↔ f.Early k := by
  rw [← hgiven, read_iff hread hk, or_iff_left]
  rw [hgiven]
  exact Option.some_ne_none v

/-- Behind a `---`, a value without one is not read. -/
theorem read_of_late (hk : ':' ∉ k.toList) {v : String} (hgiven : f.given k = some v)
    (hclear : contains v.toList marker = false) (hlate : ¬ f.Early k) :
    parseYamlStr yaml k = none := by
  rcases parseYamlStr_cases hread hk with ⟨hor, -⟩ | ⟨-, -, -, hnone⟩
  · rcases hor with hearly | hnone
    · exact absurd hearly hlate
    · rw [hgiven] at hnone
      cases hnone
  · exact hnone v hgiven hclear

/-- A number is read if it stands before any `---` or is the default. -/
theorem number_iff (hk : ':' ∉ k.toList) {n d : UInt32}
    (hn : ((f.given k).bind fun s => parseU32 s.toList) = some n) :
    ((parseYamlStr yaml k).bind fun s => parseU32 s.toList).getD d = n ↔
      (n ≠ d → f.Early k) := by
  obtain ⟨v, hgiven, hv⟩ := Option.bind_eq_some_iff.mp hn
  by_cases hearly : f.Early k
  · rw [(read_of_given hread hk hgiven).mpr hearly, Option.bind_some, hv]
    exact iff_of_true rfl fun _ => hearly
  · rw [read_of_late hread hk hgiven (clear_of_parseU32 hv) hearly, Option.bind_none,
      Option.getD_none]
    constructor
    · exact fun heq hne => absurd heq.symm hne
    · exact fun h => by_contra fun hne => hearly (h (Ne.symm hne))

/-- A text is read if it stands before any `---` or is empty. -/
theorem text_iff (hk : ':' ∉ k.toList) :
    (parseYamlStr yaml k).getD "" = (f.given k).getD "" ↔ (f.given k ≠ none → f.Early k) := by
  cases hgiven : f.given k with
  | none =>
    rw [(read_iff hread hk).mpr (.inr hgiven), hgiven]
    exact iff_of_true rfl fun h => absurd rfl h
  | some v =>
    have hv : v ≠ "" := by
      have hfilter := (Option.filter_eq_some_iff.mp hgiven).2
      exact (of_decide_eq_true hfilter).1
    rw [← read_of_given hread hk hgiven, Option.getD_some]
    constructor
    · intro h _
      cases hparse : parseYamlStr yaml k with
      | none =>
        rw [hparse] at h
        exact absurd h.symm hv
      | some v' =>
        rw [hparse] at h
        exact congrArg some h
    · intro h
      rw [h (Option.some_ne_none v), Option.getD_some]

/-- An active file is read as one if `active` and both paths stand before any `---`. -/
theorem parse_active_iff {checkpointPath planFile : String}
    (hyaml : extractFrontmatter f.text = some yaml)
    (hactive : f.given "active" = some "true")
    (hcheckpoint : f.given "checkpoint_path" = some checkpointPath)
    (hplan : f.given "plan_file" = some planFile) {state : ArcLoopState} :
    (parseArcLoopState f.text = .active state ∧ state.checkpointPath = checkpointPath ∧
      state.planFile = planFile) ↔
    (∀ key ∈ ["active", "checkpoint_path", "plan_file"], f.Early key) ∧
      state = stateOf yaml checkpointPath planFile := by
  have hall : (∀ key ∈ ["active", "checkpoint_path", "plan_file"], f.Early key) ↔
      f.Early "active" ∧ f.Early "checkpoint_path" ∧ f.Early "plan_file" := by
    simp
  rw [hall, ← read_of_given hread (by decide) hactive,
    ← read_of_given hread (by decide) hcheckpoint, ← read_of_given hread (by decide) hplan]
  by_cases htrue : parseYamlStr yaml "active" = some "true"
  · rw [parse_true hyaml htrue]
    constructor
    · rintro ⟨hstate, rfl, rfl⟩
      split at hstate
      · next cp plan hcp hp =>
        cases hstate
        exact ⟨⟨htrue, hcp, hp⟩, rfl⟩
      · cases hstate
    · rintro ⟨⟨-, hcp, hp⟩, rfl⟩
      rw [hcp, hp]
      exact ⟨rfl, rfl, rfl⟩
  · refine iff_of_false ?_ fun h => htrue h.1.1
    rintro ⟨hstate, -, -⟩
    have hfalse : parseYamlStr yaml "active" ≠ some "false" := by
      intro hfalse
      rw [parse_false hyaml hfalse] at hstate
      cases hstate
    rw [parse_ill_formed hyaml htrue hfalse] at hstate
    cases hstate

/-- An inactive file is read as one if `active` stands before any `---`. -/
theorem parse_inactive_iff (hyaml : extractFrontmatter f.text = some yaml)
    (hactive : f.given "active" = some "false") :
    parseArcLoopState f.text = .inactive ↔ f.Early "active" := by
  rw [← read_of_given hread (by decide) hactive]
  constructor
  · intro h
    by_contra hfalse
    by_cases htrue : parseYamlStr yaml "active" = some "true"
    · rw [parse_true hyaml htrue] at h
      split at h
      · cases h
      · cases h
    · rw [parse_ill_formed hyaml htrue hfalse] at h
      cases h
  · exact parse_false hyaml

end

/-- The file is read as it is given exactly if what matters in it stands before any `---`. -/
theorem readAsGiven_iff (files : Files) (workingDir : PathBuf) (f : Frontmatter) :
    f.ReadAsGiven (readArcLoopState
      (files.insert (loopStateFile workingDir) (some f.text)) workingDir) ↔ f.Legible := by
  rw [readArcLoopState_insert]
  obtain ⟨yaml, hyaml, hread⟩ := f.extractFrontmatter_text
  constructor
  · intro h
    refine ⟨fun hactive => ?_, fun hactive hcheckpoint hplan => ?_⟩
    · exact (parse_inactive_iff hread hyaml hactive).mp (h.inactive hactive)
    · obtain ⟨checkpointPath, hcheckpoint⟩ := Option.ne_none_iff_exists'.mp hcheckpoint
      obtain ⟨planFile, hplan⟩ := Option.ne_none_iff_exists'.mp hplan
      obtain ⟨state, hstate, hcp, hp, hbranch, hsession, howner, hiteration, hmax⟩ :=
        h.active hactive checkpointPath planFile hcheckpoint hplan
      obtain ⟨hearly, rfl⟩ := (parse_active_iff hread hyaml hactive hcheckpoint hplan).mp
        ⟨hstate, hcp, hp⟩
      refine ⟨hearly, ?_, fun n hn => ?_, fun n hn => ?_⟩
      · simp only [List.forall_mem_cons]
        exact ⟨(text_iff hread (by decide)).mp hbranch, (text_iff hread (by decide)).mp hsession,
          (text_iff hread (by decide)).mp howner, by simp⟩
      · exact (number_iff hread (by decide) hn).mp (hiteration n hn)
      · exact (number_iff hread (by decide) hn).mp (hmax n hn)
  · intro h
    have hinactive : f.given "active" = some "false" → parseArcLoopState f.text = .inactive :=
      fun hactive => (parse_inactive_iff hread hyaml hactive).mpr (h.inactive hactive)
    have hstate : ∀ {checkpointPath planFile}, f.given "active" = some "true" →
        f.given "checkpoint_path" = some checkpointPath → f.given "plan_file" = some planFile →
        parseArcLoopState f.text = .active (stateOf yaml checkpointPath planFile) := by
      intro checkpointPath planFile hactive hcheckpoint hplan
      have hearly := (h.active hactive (by simp [hcheckpoint]) (by simp [hplan])).1
      exact ((parse_active_iff hread hyaml hactive hcheckpoint hplan).mpr ⟨hearly, rfl⟩).1
    refine ⟨fun hactive checkpointPath planFile hcheckpoint hplan => ?_, hinactive,
      fun hmissing => ?_⟩
    · obtain ⟨-, htexts, hiteration, hmax⟩ :=
        h.active hactive (by simp [hcheckpoint]) (by simp [hplan])
      simp only [List.forall_mem_cons] at htexts
      obtain ⟨hbranch, hsession, howner, -⟩ := htexts
      exact ⟨_, hstate hactive hcheckpoint hplan, rfl, rfl,
        (text_iff hread (by decide)).mpr hbranch, (text_iff hread (by decide)).mpr hsession,
        (text_iff hread (by decide)).mpr howner,
        fun n hn => (number_iff hread (by decide) hn).mpr (hiteration n hn),
        fun n hn => (number_iff hread (by decide) hn).mpr (hmax n hn)⟩
    · by_contra hgiven
      simp only [not_or, not_and_or, not_not] at hgiven
      obtain ⟨hactive | hactive, hcheckpoint, hplan⟩ := hgiven
      · obtain ⟨checkpointPath, hcheckpoint⟩ := Option.ne_none_iff_exists'.mp hcheckpoint
        obtain ⟨planFile, hplan⟩ := Option.ne_none_iff_exists'.mp hplan
        rw [hstate hactive hcheckpoint hplan] at hmissing
        cases hmissing
      · rw [hinactive hactive] at hmissing
        cases hmissing

/-- A branch name with `---` in it hides the paths behind it. -/
theorem dashed_branch_missing : ¬ ∀ (files : Files) (workingDir : PathBuf) (f : Frontmatter),
    f.ReadAsGiven (readArcLoopState
      (files.insert (loopStateFile workingDir) (some f.text)) workingDir) := by
  intro hclaim
  let f : Frontmatter := {
    entries := [("active", "true"), ("branch", "feat---x"), ("checkpoint_path", "c.json"),
      ("plan_file", "p.md")]
    tail := ""
    distinct := by decide
    keys := by
      simp only [List.forall_mem_cons]
      refine ⟨⟨by decide, by decide, by decide⟩, ⟨by decide, by decide, by decide⟩,
        ⟨by decide, by decide, by decide⟩, ⟨by decide, by decide, by decide⟩, by simp⟩
    values := by
      simp only [List.forall_mem_cons]
      refine ⟨⟨by decide, by decide, by decide⟩, ⟨by decide, by decide, by decide⟩,
        ⟨by decide, by decide, by decide⟩, ⟨by decide, by decide, by decide⟩, by simp⟩
    ended := .inl rfl }
  obtain ⟨state, hstate, -⟩ :=
    (hclaim ∅ "/repo" f).active (by decide) "c.json" "p.md" (by decide) (by decide)
  have hmissing : parseArcLoopState f.text = .missing := by
    decide +kernel
  rw [readArcLoopState_insert, hmissing] at hstate
  cases hstate

end Frontmatter

end GreaterWill
