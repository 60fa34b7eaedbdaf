import GreaterWill.Engine.Orchestrator
import GreaterWill.Lib.Shell
import GreaterWill.Lib.TextLemmas

/-!
# Arc commands

The `/rune:arc` command is typed into the session as one line, with its arguments quoted for a
shell. Split as a shell splits it, the line has the arguments it was built from, whatever
characters they have.
-/

namespace GreaterWill.SingleSession

/-- What a shell splits a line into. -/
def shellWords (line : String) : Option (List String) :=
  (Shell.splitWords line.toList).map (·.map String.ofList)

/-- What stands behind `/rune:arc` in a command. -/
def argumentPart (cmd : String) : Option String :=
  (Text.stripPrefix "/rune:arc ".toList cmd.toList).map String.ofList

variable (planPath : String) (arcFlags : List String)

theorem toList_shellEscape (s : String) :
    (shellEscape s).toList = Shell.singleQuote s.toList := by
  simp only [shellEscape, String.toList_append, String.toList_ofList]
  rfl

/-- A line of arguments: the quoted plan, unquoted options, and quoted flags. -/
def argumentLine (options : List String) : String :=
  arcFlags.foldl (fun cmd flag => cmd ++ " " ++ shellEscape flag)
    (options.foldl (fun cmd option => cmd ++ " " ++ option) (shellEscape planPath))

theorem toList_foldl_words (f : String → String) (words : List String) (cmd : String) :
    (words.foldl (fun cmd word => cmd ++ " " ++ f word) cmd).toList =
      cmd.toList ++ (words.map fun word => (f word).toList).flatMap (' ' :: ·) := by
  induction words generalizing cmd with
  | nil => simp
  | cons word words ih =>
    rw [List.foldl_cons, ih]
    simp

/-- What comes first in a command stays first. -/
theorem foldl_words_append (f : String → String) (words : List String) (pre cmd : String) :
    words.foldl (fun cmd word => cmd ++ " " ++ f word) (pre ++ cmd) =
      pre ++ words.foldl (fun cmd word => cmd ++ " " ++ f word) cmd := by
  induction words generalizing cmd with
  | nil => rfl
  | cons word words ih =>
    rw [List.foldl_cons, List.foldl_cons, ← ih, String.append_assoc, String.append_assoc,
      String.append_assoc]

theorem shellWords_argumentLine {options : List String}
    (h : ∀ option ∈ options, Shell.ReadsAs option.toList option.toList) :
    shellWords (argumentLine planPath arcFlags options) =
      some (planPath :: (options ++ arcFlags)) := by
  have hline : (argumentLine planPath arcFlags options).toList =
      Shell.singleQuote planPath.toList ++
        (options.map (·.toList) ++ arcFlags.map fun flag => Shell.singleQuote flag.toList).flatMap
          (' ' :: ·) := by
    rw [argumentLine, toList_foldl_words, toList_foldl_words (fun option => option),
      toList_shellEscape, List.flatMap_append, List.append_assoc]
    simp only [toList_shellEscape]
  have hreads : List.Forall₂ Shell.ReadsAs
      (options.map (·.toList) ++ arcFlags.map fun flag => Shell.singleQuote flag.toList)
      ((options ++ arcFlags).map (·.toList)) := by
    rw [List.map_append]
    refine List.rel_append ?_ ?_
    · rw [List.forall₂_map_left_iff, List.forall₂_map_right_iff, List.forall₂_same]
      exact h
    · rw [List.forall₂_map_left_iff, List.forall₂_map_right_iff, List.forall₂_same]
      exact fun flag _ => Shell.readsAs_singleQuote flag.toList
  rw [shellWords, hline, Shell.splitWords_line (Shell.readsAs_singleQuote _) hreads,
    Option.map_some, List.map_cons, List.map_map, String.ofList_toList]
  simp [Function.comp_def]

theorem shellWords_shellEscape (s : String) : shellWords (shellEscape s) = some [s] := by
  have hline : shellWords (argumentLine s [] []) = some [s] :=
    shellWords_argumentLine s [] fun _ h => absurd h List.not_mem_nil
  exact hline

/-- Different texts are quoted differently. -/
theorem shellEscape_injective : Function.Injective shellEscape := by
  intro s s' h
  have hwords := shellWords_shellEscape s
  rw [h, shellWords_shellEscape s', Option.some.injEq, List.singleton_inj] at hwords
  exact hwords.symm

theorem readsAs_resume : Shell.ReadsAs "--resume".toList "--resume".toList :=
  Shell.readsAs_ordinary (by decide) (List.forall_iff_forall_mem.mp (by decide))

theorem argumentPart_append (line : String) : argumentPart ("/rune:arc " ++ line) = some line := by
  rw [argumentPart, String.toList_append, Text.stripPrefix_append, Option.map_some,
    String.ofList_toList]

theorem buildResumeCommand_eq : buildResumeCommand planPath arcFlags =
    "/rune:arc " ++ argumentLine planPath arcFlags ["--resume"] := by
  have hplan : s!"/rune:arc {shellEscape planPath} --resume" =
      "/rune:arc " ++ (shellEscape planPath ++ " " ++ "--resume") := by
    simp only [toString, String.append_assoc]
    rfl
  rw [argumentLine, ← foldl_words_append, buildResumeCommand, hplan]
  rfl

theorem buildArcCommand_eq (config : SingleSessionConfig) : buildArcCommand planPath config =
    "/rune:arc " ++
      argumentLine planPath config.arcFlags (if config.resume then ["--resume"] else []) := by
  have hcommand :
      s!"/rune:arc {shellEscape planPath}" ++ (if config.resume then " --resume" else "") =
      "/rune:arc " ++ (if config.resume then ["--resume"] else []).foldl
        (fun cmd option => cmd ++ " " ++ option) (shellEscape planPath) := by
    cases config.resume with
    | false => simp [toString]
    | true =>
      simp only [toString, String.append_assoc]
      rfl
  rw [argumentLine, ← foldl_words_append, buildArcCommand, hcommand]

/-- Every text is read back as one word, and the arguments of a command as the plan, `--resume`
where it is asked for, and the flags. -/
theorem quoting_exact :
    (∀ s, shellWords (shellEscape s) = some [s]) ∧
    (∀ planPath config, (argumentPart (buildArcCommand planPath config)).bind shellWords =
      some (planPath :: ((if config.resume then ["--resume"] else []) ++ config.arcFlags))) ∧
    ∀ planPath arcFlags, (argumentPart (buildResumeCommand planPath arcFlags)).bind shellWords =
      some (planPath :: "--resume" :: arcFlags) := by
  refine ⟨shellWords_shellEscape, fun planPath config => ?_, fun planPath arcFlags => ?_⟩
  · rw [buildArcCommand_eq, argumentPart_append]
    apply shellWords_argumentLine
    intro option hoption
    split at hoption
    · cases List.mem_singleton.mp hoption
      exact readsAs_resume
    · cases hoption
  · rw [buildResumeCommand_eq, argumentPart_append]
    apply shellWords_argumentLine
    intro option hoption
    cases List.mem_singleton.mp hoption
    exact readsAs_resume

end GreaterWill.SingleSession
