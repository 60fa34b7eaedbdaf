import GreaterWill.Engine.CrashLoop
import GreaterWill.Lib.Text

/-!
# Accepting permission prompts

The monitor answers a permission prompt on the last line of the pane with Enter, at most once in a
while and at most `MAX_AUTO_ACCEPTS` times. `str::to_lowercase` is a parameter.
-/

namespace GreaterWill

/-- Texts that stand on the line of a permission prompt. -/
def PROMPT_PATTERNS : List String := [
  "? (y/n)", "? (yes/no)", "(y/n)", "(yes/no)", "allow tool", "allow edit", "allow write",
  "allow bash", "allow read", "allow mcp", "do you want to proceed", "do you want to continue",
  "press enter to continue", "press enter", "continue?"]

/-- Texts of a shell prompt, which is never accepted. -/
def SHELL_PROMPTS : List String := ["❯", "$ ", "# ", "% "]

/-- Maximum auto-accepts per session. -/
def MAX_AUTO_ACCEPTS : Nat := 50

structure PromptAcceptor where
  /-- When the last accept was sent. -/
  lastAccept : Option Int := none
  /-- Minimum interval between accepts. -/
  debounce : Nat
  enabled : Bool
  acceptCount : Nat := 0

/-- The last line of the pane that is not blank, in lower case. -/
def lastLine (toLowercase : List Char → List Char) (pane : String) : List Char :=
  match (Text.lines pane.toList).reverse.find? fun line => Text.trim line ≠ [] with
  | some line => toLowercase line
  | none => []

/-- Answer a prompt in the pane; whether Enter was sent. `enterSent` is whether `tmux` would send
it. -/
def PromptAcceptor.checkAndAccept (acceptor : PromptAcceptor)
    (toLowercase : List Char → List Char) (pane : String) (enterSent : Bool) (now : Nat) :
    Bool × PromptAcceptor :=
  let line := lastLine toLowercase pane
  if !acceptor.enabled || MAX_AUTO_ACCEPTS ≤ acceptor.acceptCount then (false, acceptor)
  else if SHELL_PROMPTS.any fun p => Text.contains line p.toList then (false, acceptor)
  else if !PROMPT_PATTERNS.any fun p => Text.contains line p.toList then (false, acceptor)
  else if acceptor.lastAccept.any fun last => durationSince now last < acceptor.debounce then
    (false, acceptor)
  else if enterSent then
    (true, { acceptor with lastAccept := some now, acceptCount := acceptor.acceptCount + 1 })
  else (false, acceptor)

end GreaterWill
