import Mathlib.Data.List.Basic

/-!
# Shell words

How a POSIX shell splits a text into words: blanks separate words, a backslash and quotes take
characters literally, and quotes are removed. A text is only split where the shell would do nothing
else with it: an operator, an expansion, a pattern or an unfinished quotation gives `none`.

`singleQuote` encloses a text in single quotes and takes its own single quotes out of them; the
shell reads the quoted text as one word, that text (`run_singleQuote`).
-/

namespace GreaterWill.Shell

/-- How the next character is read. -/
inductive Mode where
  | plain
  /-- After a backslash. -/
  | escaped
  | single
  | double
  /-- After a backslash between double quotes. -/
  | doubleEscaped
  deriving DecidableEq, Repr

/-- The words that are finished, the word at hand if there is one, and the mode. -/
structure Lexer where
  words : List (List Char)
  word : Option (List Char)
  mode : Mode
  deriving DecidableEq

namespace Lexer

/-- Before the first character. -/
def start : Lexer := ⟨[], none, .plain⟩

/-- The characters are part of the word at hand, or begin one. -/
def add (l : Lexer) (text : List Char) (mode : Mode) : Lexer :=
  { l with word := some (l.word.getD [] ++ text), mode }

/-- The word at hand ends. -/
def endWord (l : Lexer) : Lexer :=
  match l.word with
  | some word => { l with words := l.words ++ [word], word := none }
  | none => l

end Lexer

/-- Characters that mean something else than themselves outside quotes: operators, expansions and
patterns, and a line feed, which ends the command. -/
def special : List Char := "|&;<>()$\x60*?[]#~=%!\x7b\x7d\n".toList

/-- Characters that a backslash between double quotes takes literally. -/
def doubleSpecial : List Char := "$\x60\"\\".toList

/-- Read a character. -/
def step (l : Lexer) (c : Char) : Option Lexer :=
  match l.mode with
  | .plain =>
    if c = '\'' then some (l.add [] .single)
    else if c = '"' then some (l.add [] .double)
    else if c = '\\' then some { l with mode := .escaped }
    else if c = ' ' ∨ c = '\t' then some l.endWord
    else if c ∈ special then none
    else some (l.add [c] .plain)
  | .escaped =>
    -- a line feed after a backslash is removed with it
    if c = '\n' then some { l with mode := .plain } else some (l.add [c] .plain)
  | .single => if c = '\'' then some { l with mode := .plain } else some (l.add [c] .single)
  | .double =>
    if c = '"' then some { l with mode := .plain }
    else if c = '\\' then some { l with mode := .doubleEscaped }
    else if c = '$' ∨ c = '\x60' then none
    else some (l.add [c] .double)
  | .doubleEscaped =>
    if c = '\n' then some { l with mode := .double }
    else if c ∈ doubleSpecial then some (l.add [c] .double)
    else some (l.add ['\\', c] .double)

/-- Read a text. -/
def run (l : Lexer) (text : List Char) : Option Lexer := text.foldlM step l

/-- The words of a text. -/
def splitWords (text : List Char) : Option (List (List Char)) :=
  (run .start text).bind fun l => if l.mode = .plain then some l.endWord.words else none

/-- A character between single quotes. -/
def quoteChar (c : Char) : List Char := if c = '\'' then ['\'', '\\', '\'', '\''] else [c]

/-- Enclose a text in single quotes. -/
def singleQuote (text : List Char) : List Char := '\'' :: text.flatMap quoteChar ++ ['\'']

/-! ## Reading what was quoted -/

variable {l : Lexer} {text text' : List Char} {c : Char}

@[simp] theorem run_nil : run l [] = some l := rfl

theorem run_cons : run l (c :: text) = (step l c).bind (run · text) := List.foldlM_cons

theorem run_append : run l (text ++ text') = (run l text).bind (run · text') :=
  List.foldlM_append

/-- A character that stands for itself without quotes. -/
def Ordinary (c : Char) : Prop := c ∉ special ∧ c ∉ ['\'', '"', '\\', ' ', '\t']

instance (c : Char) : Decidable (Ordinary c) := inferInstanceAs (Decidable (_ ∧ _))

theorem step_space (hmode : l.mode = .plain) : step l ' ' = some l.endWord := by
  simp [step, hmode]

theorem step_ordinary (hmode : l.mode = .plain) (h : Ordinary c) :
    step l c = some (l.add [c] .plain) := by
  obtain ⟨hspecial, hquote⟩ := h
  simp only [List.mem_cons, List.not_mem_nil, or_false, not_or] at hquote
  obtain ⟨hsingle, hdouble, hbackslash, hspace, htab⟩ := hquote
  simp [step, hmode, hspecial, hsingle, hdouble, hbackslash, hspace, htab]

theorem run_ordinary {w : List Char} (h : ∀ c ∈ text, Ordinary c) (words : List (List Char)) :
    run ⟨words, some w, .plain⟩ text = some ⟨words, some (w ++ text), .plain⟩ := by
  induction text generalizing w with
  | nil => rw [run_nil, List.append_nil]
  | cons c text ih =>
    obtain ⟨hc, htext⟩ := List.forall_mem_cons.mp h
    rw [run_cons, step_ordinary rfl hc, Option.bind_some]
    exact (ih htext).trans (by rw [List.append_assoc]; rfl)

theorem run_quoteChar (words : List (List Char)) (w : List Char) (c : Char) :
    run ⟨words, some w, .single⟩ (quoteChar c) = some ⟨words, some (w ++ [c]), .single⟩ := by
  rw [quoteChar]
  split
  · next h =>
    subst h
    simp [run_cons, step, Lexer.add]
  · next h => simp [run_cons, step, Lexer.add, h]

theorem run_quoted (words : List (List Char)) (w text : List Char) :
    run ⟨words, some w, .single⟩ (text.flatMap quoteChar) =
      some ⟨words, some (w ++ text), .single⟩ := by
  induction text generalizing w with
  | nil => rw [List.flatMap_nil, run_nil, List.append_nil]
  | cons c text ih =>
    rw [List.flatMap_cons, run_append, run_quoteChar, Option.bind_some, ih, List.append_assoc,
      List.singleton_append]

/-- A quoted text is read as that text. -/
theorem run_singleQuote (hmode : l.mode = .plain) (text : List Char) :
    run l (singleQuote text) = some (l.add text .plain) := by
  have hopen : step l '\'' = some ⟨l.words, some (l.word.getD []), .single⟩ := by
    rw [step, hmode]
    simp [Lexer.add]
  rw [singleQuote, List.cons_append, run_cons, hopen, Option.bind_some, run_append, run_quoted,
    Option.bind_some]
  rfl

/-! ## Lines of words -/

/-- Between words the text is read as one word. -/
def ReadsAs (text w : List Char) : Prop :=
  ∀ words, run ⟨words, none, .plain⟩ text = some ⟨words, some w, .plain⟩

theorem readsAs_singleQuote (text : List Char) : ReadsAs (singleQuote text) text := by
  intro words
  exact run_singleQuote rfl text

theorem readsAs_ordinary (hc : Ordinary c) (h : ∀ c ∈ text, Ordinary c) :
    ReadsAs (c :: text) (c :: text) := by
  intro words
  rw [run_cons, step_ordinary rfl hc, Option.bind_some]
  exact run_ordinary h words

/-- Words after blanks are added to the words before them. -/
theorem exists_run_line {texts ws : List (List Char)} (hmode : l.mode = .plain)
    (h : List.Forall₂ ReadsAs texts ws) :
    ∃ l', run l (texts.flatMap (' ' :: ·)) = some l' ∧ l'.mode = .plain ∧
      l'.endWord.words = l.endWord.words ++ ws := by
  induction h generalizing l with
  | nil => exact ⟨l, rfl, hmode, (List.append_nil _).symm⟩
  | @cons text w texts ws hread _ ih =>
    have hend : l.endWord = ⟨l.endWord.words, none, .plain⟩ := by
      rw [← hmode, Lexer.endWord]
      split
      · rfl
      · next hword => rw [← hword]
    obtain ⟨l', hrun, hmode', hwords⟩ := ih (l := ⟨l.endWord.words, some w, .plain⟩) rfl
    refine ⟨l', ?_, hmode', ?_⟩
    · rw [List.flatMap_cons, List.cons_append, run_cons, step_space hmode, Option.bind_some, hend,
        run_append, hread, Option.bind_some, hrun]
    · rw [hwords, Lexer.endWord, List.append_assoc, List.singleton_append]

theorem splitWords_line {w : List Char} {texts ws : List (List Char)} (hfirst : ReadsAs text w)
    (h : List.Forall₂ ReadsAs texts ws) :
    splitWords (text ++ texts.flatMap (' ' :: ·)) = some (w :: ws) := by
  obtain ⟨l', hrun, hmode, hwords⟩ := exists_run_line (l := ⟨[], some w, .plain⟩) rfl h
  rw [splitWords, run_append, Lexer.start, hfirst, Option.bind_some, hrun, Option.bind_some,
    if_pos hmode, hwords]
  rfl

end GreaterWill.Shell
