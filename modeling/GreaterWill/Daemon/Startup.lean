import GreaterWill.Engine.CrashHistory
import GreaterWill.Lib.Path
import GreaterWill.Lib.Run
import GreaterWill.Lib.Text

/-!
# Daemon start-up and the crash loop flag

`start_daemon` of `daemon/mod.rs` up to the point where the daemon runs, and what the end of the
process leaves. A process that ends without its clean shutdown leaves the marker `daemon.running`;
the next start that finds it counts a crash in the history file, and refuses to go on if the
detector says so. The check comes before the lock of the PID file, so a second daemon that is started
while one runs is counted as well.

Nothing at start-up ever takes a counted crash back, and the detector has a ceiling for the crashes in
its lifetime. So a history lets nine of them through, and after these the next unclean end is the last
(`no_start_after_nine`). Before that the crashes of the last two minutes decide
(`refused_by_recent_crashes`).

One call of `start_daemon` is one step, and so is a shutdown. A process that is killed on the way is
one whose later file operations failed. The counter of restarts is a natural number here and a `u32`
in the source.
-/

namespace GreaterWill

/-- The sentinel file that says why the daemon is not running. -/
structure CrashLoopFlag where
  /-- Seconds of the wall clock. -/
  timestamp : Nat
  crashCount : UInt32
  lastError : Option String
  message : String

def crashloopFlagPath (home : PathBuf) : PathBuf := PathBuf.join home "crashloop.flag"

/-- The flag `write_crashloop_flag` writes. -/
def crashloopFlag (path : PathBuf) (crashCount : UInt32) (timestamp : Nat) : CrashLoopFlag where
  timestamp := timestamp
  crashCount := crashCount
  lastError := none
  message := s!"Crash loop detected: {crashCount} crashes within rolling window. " ++
    s!"launchd respawn halted. Inspect daemon.log and delete {path} after fixing the root cause."

/-- The files in the home directory that start-up reads and writes, and the process that holds the
lock of the PID file. -/
structure DaemonHome where
  /-- The crash history, if there is one that can be read. -/
  history : Option CrashHistoryRecord := none
  flag : Option CrashLoopFlag := none
  /-- Whether the marker `daemon.running` exists. -/
  running : Bool := false
  pidFile : Option (List Char) := none
  lockedBy : Option Nat := none
  /-- The wall clock in nanoseconds, when a start last read it. -/
  wall : Nat := 0

/-- How far the writing of the PID file comes. -/
inductive PidWrite where
  | notOpened
  | notWritten
  /-- Written over the start of the file, not cut to length. -/
  | notCut
  | written
  deriving DecidableEq

/-- Which file operations of a start succeed. -/
structure StartFiles where
  flagWritten : Bool := true
  persisted : Bool := true
  flagRemoved : Bool := true
  pid : PidWrite := .written
  markerWritten : Bool := true

/-- The clock readings of a start: the monotonic clock, and the wall clock at its zero. -/
structure StartClock where
  offset : Nat
  loaded : Nat
  recorded : Nat
  flagged : Nat
  persisted : Nat
  loaded_le : loaded ≤ recorded
  recorded_le : recorded ≤ flagged
  flagged_le : flagged ≤ persisted

inductive StartResult where
  /-- Refused: too many crashes. -/
  | crashLoop (crashes : UInt32)
  /-- Refused as well, but the flag could not be written. -/
  | flagNotWritten
  | pidFileFailed
  | alreadyRunning (existing : List Char)
  | started
  deriving DecidableEq

/-- Whether the crash check ended the start. -/
def StartResult.Refused : StartResult → Prop
  | .crashLoop _ | .flagNotWritten => True
  | _ => False

instance : DecidablePred StartResult.Refused := fun r =>
  match r with
  | .crashLoop _ | .flagNotWritten => .isTrue trivial
  | .pidFileFailed | .alreadyRunning _ | .started => .isFalse id

namespace DaemonHome
variable (s : DaemonHome) (clock : StartClock) (io : StartFiles) (home : PathBuf) (pid : Nat)

/-- The detector with the history of the home directory. -/
def loadDetector : CrashLoopDetector :=
  let detector := CrashLoopDetector.new 5 120 300
  match s.history with
  | some record => detector.loadHistory record clock.offset clock.loaded
  | none => detector

/-- The answer to an unclean exit, if there was one. -/
def crashCheck : Option (CrashLoopDetector × CrashLoopDecision) :=
  if s.running then some ((s.loadDetector clock).recordRestart clock.recorded) else none

/-- Write the history, if that succeeds. -/
def persist (detector : CrashLoopDetector) : DaemonHome :=
  if io.persisted then
    { s with history := some (detector.persist clock.offset clock.persisted) }
  else
    s

/-- Take the lock of the PID file, write the PID over its start, cut it to length, and leave the
marker. -/
def lockPidFile : StartResult × DaemonHome :=
  if io.pid = .notOpened then
    (.pidFileFailed, s)
  else
    let content := s.pidFile.getD []
    let s := { s with pidFile := some content }
    if s.lockedBy.isSome then
      (.alreadyRunning (Text.trim content), s)
    else
      let bytes := (toString pid).toList
      match io.pid with
      | .notOpened | .notWritten => (.pidFileFailed, s)
      | .notCut =>
        (.pidFileFailed, { s with pidFile := some (bytes ++ content.drop bytes.length) })
      | .written =>
        (.started,
          { s with
            pidFile := some bytes
            lockedBy := some pid
            running := s.running || io.markerWritten })

/-- A start that the crash check lets through removes a flag that was left. -/
def proceed : StartResult × DaemonHome :=
  ({ s with flag := if io.flagRemoved then none else s.flag } : DaemonHome).lockPidFile io pid

/-- `start_daemon`, up to the marker. -/
def startDaemon : StartResult × DaemonHome :=
  match s.crashCheck clock with
  | some (detector, .stopCrashLoop) =>
    let crashes := UInt32.ofNat detector.crashTimes.length
    if io.flagWritten then
      let flag := crashloopFlag (crashloopFlagPath home) crashes
        (epochSecs clock.offset clock.flagged)
      (.crashLoop crashes, ({ s with flag := some flag } : DaemonHome).persist clock io detector)
    else
      (.flagNotWritten, s)
  | some (detector, .allowRestart) => (s.persist clock io detector).proceed io pid
  | none => s.proceed io pid

/-- The end of a clean shutdown: with the old runs cleaned up, the marker goes, then the lock, then
the PID file. Where the clean-up fails the process ends with an error, and leaves the marker. -/
def shutdown (cleaned markerRemoved pidRemoved : Bool) : DaemonHome :=
  if cleaned then
    { s with
      running := s.running && !markerRemoved
      lockedBy := none
      pidFile := if pidRemoved then none else s.pidFile }
  else
    { s with lockedBy := none }

end DaemonHome

/-! ## Lives of the daemon -/

inductive DaemonEvent where
  | start (pid : Nat) (clock : StartClock) (io : StartFiles)
  /-- The daemon dies, or fails after it left the marker. -/
  | crash
  | shutdown (cleaned markerRemoved pidRemoved : Bool)
  /-- Someone deletes the flag, as its message says. -/
  | deleteFlag

section
variable (home : PathBuf)

/-- One event. The wall clock does not go back; only a daemon that runs can end. -/
def DaemonHome.step (s : DaemonHome) : DaemonEvent → Option DaemonHome
  | .start pid clock io =>
    if s.wall ≤ clock.loaded + clock.offset then
      some { (s.startDaemon clock io home pid).2 with wall := clock.persisted + clock.offset }
    else
      none
  | .crash => if s.lockedBy.isSome then some { s with lockedBy := none } else none
  | .shutdown cleaned markerRemoved pidRemoved =>
    if s.lockedBy.isSome then some (s.shutdown cleaned markerRemoved pidRemoved) else none
  | .deleteFlag => some { s with flag := none }

/-- How a start ends. -/
def DaemonHome.results (s : DaemonHome) : DaemonEvent → List StartResult
  | .start pid clock io => [(s.startDaemon clock io home pid).1]
  | .crash | .shutdown _ _ _ | .deleteFlag => []

/-- The start adds a crash to the history. -/
def DaemonHome.Counts (s : DaemonHome) (clock : StartClock) (io : StartFiles) (pid : Nat) : Prop :=
  s.running = true ∧ io.persisted = true ∧ (s.startDaemon clock io home pid).1 ≠ .flagNotWritten

instance DaemonHome.Counts.decidable (s : DaemonHome) (clock : StartClock) (io : StartFiles)
    (pid : Nat) : Decidable (s.Counts home clock io pid) :=
  inferInstanceAs (Decidable (_ ∧ _ ∧ _))

/-- The time of the crash that a start counts, in seconds of the wall clock. -/
def DaemonHome.crashes (s : DaemonHome) : DaemonEvent → List Nat
  | .start pid clock io =>
    if s.Counts home clock io pid then [epochSecs clock.offset clock.recorded] else []
  | .crash | .shutdown _ _ _ | .deleteFlag => []

/-- A start that counts a crash and goes on. -/
def DaemonHome.forgiven (s : DaemonHome) : DaemonEvent → List StartResult
  | .start pid clock io =>
    let result := (s.startDaemon clock io home pid).1
    if s.Counts home clock io pid ∧ ¬ result.Refused then [result] else []
  | .crash | .shutdown _ _ _ | .deleteFlag => []

end

/-! ## The detector of a start -/

namespace DaemonHome
variable {s s' : DaemonHome} {clock : StartClock} {io : StartFiles} {home : PathBuf} {pid : Nat}
  {e : DaemonEvent}

/-- The crashes in the history. -/
def counted (s : DaemonHome) : Nat := (s.history.map (·.totalRestarts)).getD 0

/-- The times of the crashes in the history, in seconds of the wall clock. -/
def epochs (s : DaemonHome) : List Nat := (s.history.map (·.crashEpochs)).getD []

/-- A crash of the history is restored if it is younger than the window. -/
def recent (clock : StartClock) (epoch : Nat) : Bool :=
  epochSecs clock.offset clock.loaded - epoch < 120

/-- The time at which a crash is restored. -/
def restoreTime (clock : StartClock) (epoch : Nat) : Int :=
  (clock.loaded : Int) - fromSecs (epochSecs clock.offset clock.loaded - epoch)

theorem filterMap_ite {α β : Type} (p : α → Bool) (f : α → β) (l : List α) :
    (l.filterMap fun a => if p a then some (f a) else none) = (l.filter p).map f := by
  induction l with
  | nil => rfl
  | cons a l ih =>
    rw [List.filterMap_cons, List.filter_cons]
    cases h : p a with
    | false => exact ih
    | true => simp [ih]

theorem crashTimes_loadDetector (s : DaemonHome) (clock : StartClock) :
    (s.loadDetector clock).crashTimes = (s.epochs.filter (recent clock)).map (restoreTime clock) := by
  rw [← filterMap_ite]
  cases h : s.history with
  | none => simp [loadDetector, epochs, h, CrashLoopDetector.new, CrashLoopDetector.withTotalLimit]
  | some record =>
    simp only [loadDetector, epochs, h, CrashLoopDetector.loadHistory, Option.map_some,
      Option.getD_some, recent, decide_eq_true_eq]
    rfl

theorem totalRestarts_loadDetector (s : DaemonHome) (clock : StartClock) :
    (s.loadDetector clock).totalRestarts = s.counted := by
  cases h : s.history with
  | none => simp [loadDetector, counted, h, CrashLoopDetector.new, CrashLoopDetector.withTotalLimit]
  | some record => simp [loadDetector, counted, h, CrashLoopDetector.loadHistory]

/-- Loading a history changes no limit. -/
theorem limits_loadDetector (s : DaemonHome) (clock : StartClock) :
    (s.loadDetector clock).limits = (CrashLoopDetector.new 5 120 300).limits := by
  cases h : s.history with
  | none => simp [loadDetector, h]
  | some record => simp [loadDetector, h, CrashLoopDetector.loadHistory, CrashLoopDetector.limits]

/-- The crashes of the history that a start still counts in the window. At the ceiling it does not
look at the window. -/
def left (s : DaemonHome) (clock : StartClock) : List Nat :=
  let restored := s.epochs.filter (recent clock)
  if 9 ≤ s.counted then restored
  else restored.dropWhile fun epoch =>
    decide (restoreTime clock epoch < (clock.recorded : Int) - fromSecs 120)

/-- What the crash check finds: one crash more, and the answer by the two limits. -/
theorem crashCheck_eq_some {d : CrashLoopDetector} {decision : CrashLoopDecision}
    (h : s.crashCheck clock = some (d, decision)) :
    s.running = true ∧ d.totalRestarts = s.counted + 1 ∧
      d.crashTimes = (s.left clock).map (restoreTime clock) ++ [(clock.recorded : Int)] ∧
      (decision = .stopCrashLoop ↔ 9 ≤ s.counted ∨ 4 ≤ (s.left clock).length) := by
  have hlimits := s.limits_loadDetector clock
  have hmax : (s.loadDetector clock).maxCrashes = 5 := congrArg (·.1) hlimits
  have hwindow : (s.loadDetector clock).window = fromSecs 120 := congrArg (·.2.1) hlimits
  have htotal : (s.loadDetector clock).maxTotalRestarts = 10 := congrArg (·.2.2.2.1) hlimits
  rw [crashCheck] at h
  split at h
  · next hrunning =>
    refine ⟨hrunning, ?_⟩
    replace h := Option.some.inj h
    rcases (s.loadDetector clock).recordRestartForPhase_cases none clock.recorded with
      ⟨heq, hearly⟩ | ⟨heq, hlate, -⟩
    · rw [CrashLoopDetector.recordRestart, heq] at h
      cases h
      have hnine : 9 ≤ s.counted := by
        rcases hearly with hearly | ⟨hphase, -⟩
        · rw [htotal, totalRestarts_loadDetector] at hearly
          omega
        · cases hphase
      refine ⟨?_, ?_, ?_⟩
      · rw [CrashLoopDetector.counted, totalRestarts_loadDetector]
      · rw [CrashLoopDetector.counted, crashTimes_loadDetector, left, if_pos hnine]
      · simp [hnine]
    · rw [CrashLoopDetector.recordRestart, heq] at h
      cases h
      have hnine : ¬ 9 ≤ s.counted := by
        rw [htotal, totalRestarts_loadDetector] at hlate
        omega
      have hpruned : (s.loadDetector clock).prunedWith clock.recorded =
          (s.left clock).map (restoreTime clock) ++ [(clock.recorded : Int)] := by
        have hnow : ¬ (clock.recorded : Int) < clock.recorded - fromSecs 120 := by omega
        rw [CrashLoopDetector.prunedWith,
          CrashLoopDetector.checkedSub_window (by rw [hwindow]; decide), hwindow,
          List.dropWhile_append, List.dropWhile_cons_of_neg (by simpa using hnow),
          crashTimes_loadDetector, List.dropWhile_map, left, if_neg hnine]
        split
        · next hempty =>
          rw [List.isEmpty_iff, List.map_eq_nil_iff] at hempty
          have hnil : ((s.epochs.filter (recent clock)).dropWhile fun epoch =>
              decide (restoreTime clock epoch < (clock.recorded : Int) - fromSecs 120)) = [] := hempty
          rw [hnil]
          rfl
        · rfl
      refine ⟨?_, hpruned, ?_⟩
      · rw [CrashLoopDetector.counted, totalRestarts_loadDetector]
      · rw [hpruned, hmax, List.length_append, List.length_map, List.length_singleton]
        split
        · next hfull => simp [hnine, Nat.le_of_succ_le_succ hfull]
        · next hfull =>
          have : ¬ 4 ≤ (s.left clock).length := by omega
          simp [hnine, this]
  · cases h

/-! ## What a start leaves -/

theorem lockPidFile_spec (s : DaemonHome) (io : StartFiles) (pid : Nat) :
    (s.lockPidFile io pid).2.history = s.history ∧
      (s.running = true → (s.lockPidFile io pid).2.running = true) ∧
      ¬ (s.lockPidFile io pid).1.Refused := by
  rw [lockPidFile]
  split
  · exact ⟨rfl, id, id⟩
  · dsimp only
    split
    · exact ⟨rfl, id, id⟩
    · split
      · exact ⟨rfl, id, id⟩
      · exact ⟨rfl, id, id⟩
      · exact ⟨rfl, id, id⟩
      · exact ⟨rfl, fun h => by simp [h], id⟩

theorem proceed_spec (s : DaemonHome) (io : StartFiles) (pid : Nat) :
    (s.proceed io pid).2.history = s.history ∧
      (s.running = true → (s.proceed io pid).2.running = true) ∧
      ¬ (s.proceed io pid).1.Refused :=
  lockPidFile_spec _ io pid

theorem persist_spec (s : DaemonHome) (clock : StartClock) (io : StartFiles)
    (d : CrashLoopDetector) :
    (s.persist clock io d).history =
        (if io.persisted then some (d.persist clock.offset clock.persisted) else s.history) ∧
      (s.persist clock io d).running = s.running ∧
      (s.persist clock io d).lockedBy = s.lockedBy := by
  rw [persist]
  split
  · exact ⟨rfl, rfl, rfl⟩
  · exact ⟨rfl, rfl, rfl⟩

/-- A start is refused exactly if the crash check says so; then it takes no lock. -/
theorem refused_startDaemon (s : DaemonHome) (clock : StartClock) (io : StartFiles) (home : PathBuf)
    (pid : Nat) :
    ((s.startDaemon clock io home pid).1.Refused ↔
      ∃ d, s.crashCheck clock = some (d, .stopCrashLoop)) ∧
    ((s.startDaemon clock io home pid).1.Refused →
      (s.startDaemon clock io home pid).2.lockedBy = s.lockedBy) := by
  rw [startDaemon]
  split
  · next d hcheck =>
    have hex : ∃ d, s.crashCheck clock = some (d, .stopCrashLoop) := ⟨d, hcheck⟩
    dsimp only
    split
    · exact ⟨iff_of_true trivial hex, fun _ => (persist_spec _ clock io d).2.2⟩
    · exact ⟨iff_of_true trivial hex, fun _ => rfl⟩
  · next d hcheck =>
    have hnot := (proceed_spec (s.persist clock io d) io pid).2.2
    refine ⟨iff_of_false hnot ?_, fun h => absurd h hnot⟩
    rintro ⟨d', hd'⟩
    rw [hcheck] at hd'
    cases hd'
  · next hcheck =>
    have hnot := (proceed_spec s io pid).2.2
    refine ⟨iff_of_false hnot ?_, fun h => absurd h hnot⟩
    rintro ⟨d', hd'⟩
    rw [hcheck] at hd'
    cases hd'

/-- No start takes the marker away. -/
theorem running_startDaemon (h : s.running = true) :
    (s.startDaemon clock io home pid).2.running = true := by
  rw [startDaemon]
  split
  · next d _ =>
    dsimp only
    split
    · rw [(persist_spec _ clock io d).2.1]
      exact h
    · exact h
  · next d _ =>
    apply (proceed_spec _ io pid).2.1
    rw [(persist_spec s clock io d).2.1]
    exact h
  · exact (proceed_spec s io pid).2.1 h

/-- The history a start leaves. -/
theorem history_startDaemon (s : DaemonHome) (clock : StartClock) (io : StartFiles) (home : PathBuf)
    (pid : Nat) :
    (s.Counts home clock io pid ∧ ∃ d decision, s.crashCheck clock = some (d, decision) ∧
      (s.startDaemon clock io home pid).2.history =
        some (d.persist clock.offset clock.persisted)) ∨
    (¬ s.Counts home clock io pid ∧
      (s.startDaemon clock io home pid).2.history = s.history) := by
  have hkeeps : ∀ (t : DaemonHome) (d : CrashLoopDetector), io.persisted = false →
      (t.persist clock io d).history = t.history := by
    intro t d hio
    rw [(persist_spec t clock io d).1, hio]
    rfl
  have hwrites : ∀ (t : DaemonHome) (d : CrashLoopDetector), io.persisted = true →
      (t.persist clock io d).history = some (d.persist clock.offset clock.persisted) := by
    intro t d hio
    rw [(persist_spec t clock io d).1, if_pos hio]
  cases hio : io.persisted with
  | false =>
    refine .inr ⟨fun h => Bool.false_ne_true (hio.symm.trans h.2.1), ?_⟩
    rw [startDaemon]
    split
    · next d _ =>
      dsimp only
      split
      · exact hkeeps _ d hio
      · rfl
    · next d _ => rw [(proceed_spec _ io pid).1, hkeeps s d hio]
    · exact (proceed_spec s io pid).1
  | true =>
    cases hcheck : s.crashCheck clock with
    | none =>
      have hrunning : s.running = false := by
        rw [crashCheck] at hcheck
        split at hcheck
        · cases hcheck
        · next h => simpa using h
      refine .inr ⟨fun h => Bool.false_ne_true (hrunning.symm.trans h.1), ?_⟩
      rw [startDaemon, hcheck]
      exact (proceed_spec s io pid).1
    | some check =>
      obtain ⟨d, decision⟩ := check
      have hrunning := (crashCheck_eq_some hcheck).1
      cases decision with
      | allowRestart =>
        have heq : s.startDaemon clock io home pid = (s.persist clock io d).proceed io pid := by
          rw [startDaemon, hcheck]
        have hspec := proceed_spec (s.persist clock io d) io pid
        refine .inl ⟨⟨hrunning, hio, ?_⟩, d, _, rfl, ?_⟩
        · rw [heq]
          intro h
          apply hspec.2.2
          rw [h]
          exact trivial
        · rw [heq, hspec.1, hwrites s d hio]
      | stopCrashLoop =>
        cases hflag : io.flagWritten with
        | false =>
          have heq : s.startDaemon clock io home pid = (.flagNotWritten, s) := by
            rw [startDaemon, hcheck, hflag]
            rfl
          refine .inr ⟨fun h => h.2.2 (by rw [heq]), by rw [heq]⟩
        | true =>
          refine .inl ⟨⟨hrunning, hio, ?_⟩, d, _, rfl, ?_⟩
          · rw [startDaemon, hcheck, hflag]
            intro h
            cases h
          · rw [startDaemon, hcheck, hflag]
            exact hwrites _ d hio

end DaemonHome

/-! ## The history against the starts that were counted -/

/-- The times in a history against those of the counted starts: every write moves a time up by a second
at most, and only crashes that left the window by `wall` are missing. -/
inductive EpochsTrack (slack wall : Nat) : List Nat → List Nat → Prop where
  | nil : EpochsTrack slack wall [] []
  | keep {t e : Nat} {ts es} : t ≤ e → e ≤ t + slack →
    EpochsTrack slack wall ts es → EpochsTrack slack wall (t :: ts) (e :: es)
  | drop {t : Nat} {ts es} : t + 120 ≤ wall →
    EpochsTrack slack wall ts es → EpochsTrack slack wall (t :: ts) es

namespace EpochsTrack
variable {slack wall : Nat} {ts es : List Nat}

theorem mono (h : EpochsTrack slack wall ts es) {slack' wall' : Nat} (hslack : slack ≤ slack')
    (hwall : wall ≤ wall') : EpochsTrack slack' wall' ts es := by
  induction h with
  | nil => exact .nil
  | keep hlow hhigh _ ih => exact .keep hlow (Nat.le_trans hhigh (by omega)) ih
  | drop hold _ ih => exact .drop (Nat.le_trans hold hwall) ih

theorem concat (h : EpochsTrack slack wall ts es) {t e : Nat} (hlow : t ≤ e)
    (hhigh : e ≤ t + slack) : EpochsTrack slack wall (ts ++ [t]) (es ++ [e]) := by
  induction h with
  | nil => exact .keep hlow hhigh .nil
  | keep hlow' hhigh' _ ih => exact .keep hlow' hhigh' ih
  | drop hold _ ih => exact .drop hold ih

/-- Times that left the window may be taken out. -/
theorem filter (h : EpochsTrack slack wall ts es) {p : Nat → Bool}
    (hold : ∀ e, p e = false → e + 120 ≤ wall) : EpochsTrack slack wall ts (es.filter p) := by
  induction h with
  | nil => exact .nil
  | @keep t e ts es hlow hhigh _ ih =>
    rw [List.filter_cons]
    cases he : p e with
    | true => exact .keep hlow hhigh ih
    | false =>
      have := hold e he
      exact .drop (by omega) ih
  | drop hgone _ ih => exact .drop hgone ih

theorem dropWhile (h : EpochsTrack slack wall ts es) {p : Nat → Bool}
    (hold : ∀ e ∈ es, p e = true → e + 120 ≤ wall) :
    EpochsTrack slack wall ts (es.dropWhile p) := by
  induction h with
  | nil => exact .nil
  | @keep t e ts es hlow hhigh hrest ih =>
    obtain ⟨holdE, hold⟩ := List.forall_mem_cons.mp hold
    rw [List.dropWhile_cons]
    cases he : p e with
    | true =>
      have := holdE he
      exact .drop (by omega) (ih hold)
    | false => exact .keep hlow hhigh hrest
  | drop hgone _ ih => exact .drop hgone (ih hold)

/-- Writing every time a second later at most. -/
theorem map (h : EpochsTrack slack wall ts es) {f : Nat → Nat}
    (hf : ∀ e ∈ es, e ≤ f e ∧ f e ≤ e + 1) : EpochsTrack (slack + 1) wall ts (es.map f) := by
  induction h with
  | nil => exact .nil
  | @keep t e ts es hlow hhigh _ ih =>
    obtain ⟨he, hes⟩ := List.forall_mem_cons.mp hf
    exact .keep (Nat.le_trans hlow he.1) (by omega) (ih hes)
  | drop hgone _ ih => exact .drop hgone (ih hf)

/-- Every counted start of the last two minutes is in the history. -/
theorem recent_le (h : EpochsTrack slack wall ts es) :
    (ts.filter fun t => wall - t < 120).length ≤ es.length := by
  induction h with
  | nil => exact Nat.le_refl 0
  | @keep t e ts es _ _ _ ih =>
    have hle : ((t :: ts).filter fun t => wall - t < 120).length ≤
        (ts.filter fun t => wall - t < 120).length + 1 := by
      rw [List.filter_cons]
      split
      · exact Nat.le_refl _
      · exact Nat.le_succ _
    exact Nat.le_trans hle (Nat.succ_le_succ ih)
  | @drop t ts es hold _ ih =>
    have hout : ¬ wall - t < 120 := by omega
    rwa [List.filter_cons_of_neg (by simpa using hout)]

/-- A history of recent times is one of recent starts, up to the slack. -/
theorem le_recent (h : EpochsTrack slack wall ts es) {now : Nat}
    (hrecent : ∀ e ∈ es, now < e + 120) :
    es.length ≤ (ts.filter fun t => now < t + 120 + slack).length := by
  induction h with
  | nil => exact Nat.le_refl 0
  | @keep t e ts es hlow hhigh _ ih =>
    obtain ⟨he, hes⟩ := List.forall_mem_cons.mp hrecent
    have hin : now < t + 120 + slack := by omega
    rw [List.filter_cons_of_pos (by simpa using hin)]
    exact Nat.succ_le_succ (ih hes)
  | @drop t ts es _ _ ih =>
    refine Nat.le_trans (ih hrecent) ?_
    rw [List.filter_cons]
    split
    · exact Nat.le_succ _
    · exact Nat.le_refl _

end EpochsTrack

namespace DaemonHome
variable {s s' : DaemonHome} {clock : StartClock} {io : StartFiles} {home : PathBuf} {pid : Nat}
  {e : DaemonEvent}

/-- The time a restored crash gets when the history is written. -/
def storedEpoch (clock : StartClock) (t : Int) : Nat :=
  epochSecs clock.offset clock.persisted - asSecs (durationSince clock.persisted t)

theorem epochSecs_mono {offset a b : Nat} (h : a ≤ b) : epochSecs offset a ≤ epochSecs offset b :=
  Nat.div_le_div_right (Nat.add_le_add_right h offset)

/-- A span of time and the seconds of the wall clock in it. -/
theorem epochSecs_add (offset a span : Nat) :
    epochSecs offset a + asSecs span ≤ epochSecs offset (a + span) ∧
      epochSecs offset (a + span) ≤ epochSecs offset a + asSecs span + 1 := by
  simp only [epochSecs, asSecs]
  omega

theorem storedEpoch_restoreTime {epoch : Nat} (h : epoch ≤ epochSecs clock.offset clock.loaded) :
    epoch ≤ storedEpoch clock (restoreTime clock epoch) ∧
      storedEpoch clock (restoreTime clock epoch) ≤ epoch + 1 := by
  have hle : clock.loaded ≤ clock.persisted :=
    Nat.le_trans clock.loaded_le (Nat.le_trans clock.recorded_le clock.flagged_le)
  obtain ⟨span, hspan⟩ := Nat.exists_eq_add_of_le hle
  have hwall := epochSecs_add clock.offset clock.loaded span
  -- the age of the crash and the time since the load, in whole seconds
  have hage : asSecs (durationSince clock.persisted (restoreTime clock epoch)) =
      asSecs span + (epochSecs clock.offset clock.loaded - epoch) := by
    rw [restoreTime]
    generalize epochSecs clock.offset clock.loaded - epoch = age
    have hdur : durationSince clock.persisted (clock.loaded - fromSecs age) =
        span + age * 1000000000 := by
      rw [hspan]
      simp only [durationSince, fromSecs]
      omega
    rw [hdur]
    simp only [asSecs]
    omega
  rw [storedEpoch, hage, hspan]
  omega

theorem storedEpoch_recorded (clock : StartClock) :
    epochSecs clock.offset clock.recorded ≤ storedEpoch clock clock.recorded ∧
      storedEpoch clock clock.recorded ≤ epochSecs clock.offset clock.recorded + 1 := by
  obtain ⟨span, hspan⟩ := Nat.exists_eq_add_of_le (Nat.le_trans clock.recorded_le clock.flagged_le)
  have hwall := epochSecs_add clock.offset clock.recorded span
  have hdur : durationSince clock.persisted clock.recorded = span := by
    rw [hspan, durationSince]
    omega
  rw [storedEpoch, hdur, hspan]
  omega

theorem storedEpoch_le (clock : StartClock) (t : Int) :
    storedEpoch clock t ≤ epochSecs clock.offset clock.persisted := Nat.sub_le _ _

/-- Loading and pruning take out what left the window. -/
theorem epochsTrack_left {slack wall : Nat} {ts : List Nat}
    (h : EpochsTrack slack wall ts s.epochs) (hrange : ∀ e ∈ s.epochs, e ≤ wall)
    (hwall : wall ≤ epochSecs clock.offset clock.loaded) :
    EpochsTrack slack (epochSecs clock.offset clock.recorded) ts (s.left clock) := by
  obtain ⟨span, hspan⟩ := Nat.exists_eq_add_of_le clock.loaded_le
  have hadd := epochSecs_add clock.offset clock.loaded span
  have hrestored : EpochsTrack slack (epochSecs clock.offset clock.recorded) ts
      (s.epochs.filter (recent clock)) := by
    rw [hspan]
    apply (h.mono (Nat.le_refl _) (by omega)).filter
    intro e he
    rw [recent, decide_eq_false_iff_not] at he
    omega
  rw [left]
  split
  · exact hrestored
  · apply hrestored.dropWhile
    intro e hmem he
    have hloaded := hrange e (List.mem_filter.mp hmem).1
    -- a restored crash that is pruned is as old as the window at the time of the new one
    have hage : 120 ≤ epochSecs clock.offset clock.loaded - e + asSecs span := by
      rw [restoreTime, decide_eq_true_eq, hspan] at he
      generalize epochSecs clock.offset clock.loaded - e = age at he ⊢
      simp only [fromSecs, asSecs] at he ⊢
      omega
    rw [hspan]
    omega

/-- What is left was recent when it was loaded. -/
theorem recent_of_mem_left {epoch : Nat} (hmem : epoch ∈ s.left clock) :
    recent clock epoch = true ∧ epoch ∈ s.epochs := by
  have hrestored : epoch ∈ s.epochs.filter (recent clock) := by
    rw [left] at hmem
    split at hmem
    · exact hmem
    · exact (List.dropWhile_sublist _).subset hmem
  obtain ⟨hepochs, hrecent⟩ := List.mem_filter.mp hrestored
  exact ⟨hrecent, hepochs⟩

/-! ## Runs -/

/-- The history of a run that counted the crashes `ts`. -/
structure Matches (ts : List Nat) (s : DaemonHome) : Prop where
  counted : s.counted = ts.length
  track : EpochsTrack ts.length (asSecs s.wall) ts s.epochs
  range : ∀ e ∈ s.epochs, e ≤ asSecs s.wall

theorem Matches.init : Matches [] {} where
  counted := rfl
  track := .nil
  range := by
    intro e he
    cases he

theorem Matches.of_history {ts : List Nat} (h : Matches ts s) (hhistory : s'.history = s.history)
    (hwall : s.wall ≤ s'.wall) : Matches ts s' where
  counted := by rw [DaemonHome.counted, hhistory, ← DaemonHome.counted, h.counted]
  track := by
    rw [DaemonHome.epochs, hhistory, ← DaemonHome.epochs]
    exact h.track.mono (Nat.le_refl _) (Nat.div_le_div_right hwall)
  range := by
    rw [DaemonHome.epochs, hhistory, ← DaemonHome.epochs]
    intro e he
    exact Nat.le_trans (h.range e he) (Nat.div_le_div_right hwall)

/-- The history of a detector that counted one crash more. -/
theorem Matches.persist {ts : List Nat} (h : Matches ts s) {d : CrashLoopDetector}
    {decision : CrashLoopDecision} (hclock : s.wall ≤ clock.loaded + clock.offset)
    (hcheck : s.crashCheck clock = some (d, decision))
    (hhistory : s'.history = some (d.persist clock.offset clock.persisted))
    (hwall : s'.wall = clock.persisted + clock.offset) :
    Matches (ts ++ [epochSecs clock.offset clock.recorded]) s' := by
  obtain ⟨-, htotal, htimes, -⟩ := crashCheck_eq_some hcheck
  have hloaded : asSecs s.wall ≤ epochSecs clock.offset clock.loaded := Nat.div_le_div_right hclock
  have hsecs : asSecs s'.wall = epochSecs clock.offset clock.persisted := by
    rw [hwall]
    rfl
  have hrecorded : epochSecs clock.offset clock.recorded ≤ asSecs s'.wall := by
    rw [hsecs]
    exact epochSecs_mono (Nat.le_trans clock.recorded_le clock.flagged_le)
  have hepochs : s'.epochs =
      (s.left clock).map (fun e => storedEpoch clock (restoreTime clock e)) ++
        [storedEpoch clock clock.recorded] := by
    have hmap : s'.epochs = d.crashTimes.map (storedEpoch clock) := by
      rw [DaemonHome.epochs, hhistory]
      rfl
    rw [hmap, htimes, List.map_append, List.map_map]
    rfl
  constructor
  · rw [DaemonHome.counted, hhistory, Option.map_some, Option.getD_some, List.length_append,
      List.length_singleton, ← h.counted, ← htotal]
    rfl
  · have hleft := epochsTrack_left h.track h.range hloaded
    have hstored : ∀ e ∈ s.left clock, e ≤ storedEpoch clock (restoreTime clock e) ∧
        storedEpoch clock (restoreTime clock e) ≤ e + 1 := by
      intro e he
      exact storedEpoch_restoreTime (Nat.le_trans (h.range e (recent_of_mem_left he).2) hloaded)
    have hnew := storedEpoch_recorded clock
    rw [hepochs, List.length_append, List.length_singleton]
    apply ((hleft.map hstored).mono (Nat.le_refl _) hrecorded).concat hnew.1
    exact Nat.le_trans hnew.2 (by omega)
  · rw [hepochs, hsecs]
    intro e he
    rcases List.mem_append.mp he with he | he
    · obtain ⟨e', -, rfl⟩ := List.mem_map.mp he
      exact storedEpoch_le clock _
    · rw [List.mem_singleton.mp he]
      exact storedEpoch_le clock _

theorem wall_le_of_clock (hclock : s.wall ≤ clock.loaded + clock.offset) :
    s.wall ≤ clock.persisted + clock.offset := by
  have := clock.loaded_le
  have := clock.recorded_le
  have := clock.flagged_le
  omega

theorem Matches.step {ts : List Nat} (h : Matches ts s) (hstep : s.step home e = some s') :
    Matches (ts ++ s.crashes home e) s' := by
  cases e with
  | start pid clock io =>
    rw [DaemonHome.step] at hstep
    split at hstep
    · next hclock =>
      cases hstep
      rw [DaemonHome.crashes]
      rcases history_startDaemon s clock io home pid with
        ⟨hcounts, d, decision, hcheck, hhistory⟩ | ⟨hnot, hhistory⟩
      · rw [if_pos hcounts]
        exact h.persist hclock hcheck hhistory rfl
      · rw [if_neg hnot, List.append_nil]
        exact h.of_history hhistory (wall_le_of_clock hclock)
    · cases hstep
  | crash =>
    rw [DaemonHome.step] at hstep
    split at hstep
    · cases hstep
      rw [DaemonHome.crashes, List.append_nil]
      exact h.of_history rfl (Nat.le_refl _)
    · cases hstep
  | shutdown cleaned markerRemoved pidRemoved =>
    rw [DaemonHome.step] at hstep
    split at hstep
    · cases hstep
      rw [DaemonHome.crashes, List.append_nil, shutdown]
      split
      · exact h.of_history rfl (Nat.le_refl _)
      · exact h.of_history rfl (Nat.le_refl _)
    · cases hstep
  | deleteFlag =>
    cases hstep
    rw [DaemonHome.crashes, List.append_nil]
    exact h.of_history rfl (Nat.le_refl _)

theorem Matches.run {es : List DaemonEvent} (hrun : exec (DaemonHome.step home) {} es = some s) :
    Matches (yields (DaemonHome.step home) (DaemonHome.crashes home) {} es) s := by
  have hkeep : ∀ ts s e s', DaemonHome.step home s e = some s' → True → Matches ts s →
      Matches (ts ++ s.crashes home e) s' := fun _ _ _ _ hstep _ h => h.step hstep
  exact exec_invariant_yields hkeep hrun Along.trivial Matches.init

/-- A start is refused if four of the counted crashes were in the two minutes before it, or nine
were counted at all; and only then, up to a second for every crash counted. -/
theorem refused_by_recent_crashes (home : PathBuf) (es : List DaemonEvent) (s : DaemonHome)
    (hrun : exec (DaemonHome.step home) {} es = some s) (pid : Nat) (clock : StartClock)
    (io : StartFiles) (hclock : s.wall ≤ clock.loaded + clock.offset) :
    let counted := yields (DaemonHome.step home) (DaemonHome.crashes home) {} es
    let refused := (s.startDaemon clock io home pid).1.Refused
    (s.running = true ∧ (9 ≤ counted.length ∨
      4 ≤ (counted.filter fun t => epochSecs clock.offset clock.recorded - t < 120).length) →
      refused) ∧
    (refused → s.running = true ∧ (9 ≤ counted.length ∨
      4 ≤ (counted.filter fun t =>
        epochSecs clock.offset clock.loaded < t + 120 + counted.length).length)) := by
  intro counted refused
  have hmatches : Matches counted s := Matches.run hrun
  have hloaded : asSecs s.wall ≤ epochSecs clock.offset clock.loaded := Nat.div_le_div_right hclock
  have hleft := epochsTrack_left hmatches.track hmatches.range hloaded
  have hrefused := (refused_startDaemon s clock io home pid).1
  constructor
  · rintro ⟨hrunning, hlimit⟩
    obtain ⟨d, decision, hcheck⟩ : ∃ d decision, s.crashCheck clock = some (d, decision) :=
      ⟨_, _, by rw [crashCheck, if_pos hrunning]⟩
    obtain ⟨-, -, -, hstop⟩ := crashCheck_eq_some hcheck
    have hdecision : decision = .stopCrashLoop := by
      apply hstop.mpr
      rw [hmatches.counted]
      exact hlimit.imp_right fun h => Nat.le_trans h hleft.recent_le
    subst hdecision
    exact hrefused.mpr ⟨d, hcheck⟩
  · intro h
    obtain ⟨d, hcheck⟩ := hrefused.mp h
    obtain ⟨hrunning, -, -, hstop⟩ := crashCheck_eq_some hcheck
    refine ⟨hrunning, ?_⟩
    have hlimit := hstop.mp rfl
    rw [hmatches.counted] at hlimit
    refine hlimit.imp_right fun hfour => Nat.le_trans hfour (hleft.le_recent ?_)
    intro e he
    have hrecent := (recent_of_mem_left he).1
    rw [recent, decide_eq_true_eq] at hrecent
    omega

/-- All readings of a start taken at once, on a machine started at the epoch. -/
def clockAt (secs : Nat) : StartClock :=
  ⟨0, fromSecs secs, fromSecs secs, fromSecs secs, fromSecs secs, Nat.le_refl _, Nat.le_refl _,
    Nat.le_refl _⟩

/-- A daemon that dies every ten seconds, five times. -/
def tenSeconds : List DaemonEvent :=
  (List.range 5).flatMap fun k => [.start 100 (clockAt (10 * k)) {}, .crash]

theorem refused_after_ten_seconds : ∃ s,
    exec (DaemonHome.step "/home/u/.gw") {} tenSeconds = some s ∧
      (s.startDaemon (clockAt 50) {} "/home/u/.gw" 100).1.Refused := by
  have hfour : 4 ≤ ((yields (DaemonHome.step "/home/u/.gw") (DaemonHome.crashes "/home/u/.gw") {}
      tenSeconds).filter fun t =>
        epochSecs (clockAt 50).offset (clockAt 50).recorded - t < 120).length := by
    decide +kernel
  obtain ⟨s, hrun, hs⟩ : ∃ s, exec (DaemonHome.step "/home/u/.gw") {} tenSeconds = some s ∧
      (s.running = true ∧ s.wall ≤ (clockAt 50).loaded + (clockAt 50).offset) :=
    exists_of_any (by decide +kernel)
  have hboth := refused_by_recent_crashes "/home/u/.gw" tenSeconds s hrun 100 (clockAt 50) {} hs.2
  exact ⟨s, hrun, hboth.1 ⟨hs.1, .inr hfour⟩⟩

/-! ## The ninth crash -/

/-- A home directory that no daemon starts from any more. -/
structure Halted (s : DaemonHome) : Prop where
  running : s.running = true
  counted : 9 ≤ s.counted
  unlocked : s.lockedBy = none

/-- A start counts a crash more or leaves the count. -/
theorem counted_le_startDaemon : s.counted ≤ (s.startDaemon clock io home pid).2.counted := by
  rcases history_startDaemon s clock io home pid with
    ⟨-, d, decision, hcheck, hhistory⟩ | ⟨-, hhistory⟩
  · have htotal := (crashCheck_eq_some hcheck).2.1
    have hd : (s.startDaemon clock io home pid).2.counted = d.totalRestarts := by
      rw [DaemonHome.counted, hhistory]
      rfl
    omega
  · rw [DaemonHome.counted, DaemonHome.counted, hhistory]

theorem Halted.refused (h : Halted s) : (s.startDaemon clock io home pid).1.Refused := by
  obtain ⟨d, decision, hcheck⟩ : ∃ d decision, s.crashCheck clock = some (d, decision) :=
    ⟨_, _, by rw [crashCheck, if_pos h.running]⟩
  obtain ⟨-, -, -, hstop⟩ := crashCheck_eq_some hcheck
  obtain rfl := hstop.mpr (.inl h.counted)
  exact (refused_startDaemon s _ _ _ _).1.mpr ⟨d, hcheck⟩

theorem Halted.step (h : Halted s) (hstep : s.step home e = some s') :
    Halted s' ∧ ∀ r ∈ s.results home e, r.Refused := by
  cases e with
  | start pid clock io =>
    rw [DaemonHome.step] at hstep
    split at hstep
    · cases hstep
      refine ⟨⟨running_startDaemon h.running, Nat.le_trans h.counted counted_le_startDaemon, ?_⟩, ?_⟩
      · exact ((refused_startDaemon s _ _ _ _).2 h.refused).trans h.unlocked
      · intro r hr
        rw [List.mem_singleton.mp hr]
        exact h.refused
    · cases hstep
  | crash => simp [DaemonHome.step, h.unlocked] at hstep
  | shutdown _ _ _ => simp [DaemonHome.step, h.unlocked] at hstep
  | deleteFlag =>
    cases hstep
    refine ⟨⟨h.running, h.counted, h.unlocked⟩, ?_⟩
    intro r hr
    cases hr

theorem Halted.run {es : List DaemonEvent} (h : Halted s)
    (hrun : exec (DaemonHome.step home) s es = some s') :
    Halted s' ∧ ∀ r ∈ yields (DaemonHome.step home) (DaemonHome.results home) s es, r.Refused := by
  induction es generalizing s with
  | nil =>
    cases hrun
    refine ⟨h, ?_⟩
    intro r hr
    cases hr
  | cons e es ih =>
    obtain ⟨t, hstep, hrest⟩ := exec_cons.mp hrun
    obtain ⟨ht, hfirst⟩ := h.step hstep
    obtain ⟨hs', hlater⟩ := ih ht hrest
    rw [yields_cons hstep]
    exact ⟨hs', List.forall_mem_append.mpr ⟨hfirst, hlater⟩⟩

/-- The crashes let through: one at a time, and none from the ninth on. -/
theorem forgiven_step {rs : List StartResult} (h : rs.length ≤ min s.counted 9)
    (hstep : s.step home e = some s') : (rs ++ s.forgiven home e).length ≤ min s'.counted 9 := by
  cases e with
  | start pid clock io =>
    rw [DaemonHome.step] at hstep
    split at hstep
    · cases hstep
      have hle : s.counted ≤ (s.startDaemon clock io home pid).2.counted := counted_le_startDaemon
      have hcounted : ({ (s.startDaemon clock io home pid).2 with
          wall := clock.persisted + clock.offset } : DaemonHome).counted =
            (s.startDaemon clock io home pid).2.counted := rfl
      simp only [DaemonHome.forgiven]
      split
      · next hforgiven =>
        obtain ⟨hcounts, hnot⟩ := hforgiven
        rcases history_startDaemon s clock io home pid with ⟨-, d, decision, hcheck, hhistory⟩ | ⟨hno, -⟩
        · obtain ⟨hrunning, htotal, -, hstop⟩ := crashCheck_eq_some hcheck
          have hd : (s.startDaemon clock io home pid).2.counted = d.totalRestarts := by
            rw [DaemonHome.counted, hhistory]
            rfl
          have hnine : ¬ 9 ≤ s.counted := by
            intro hnine
            apply hnot
            obtain rfl := hstop.mpr (.inl hnine)
            exact (refused_startDaemon s _ _ _ _).1.mpr ⟨d, hcheck⟩
          rw [hcounted, List.length_append, List.length_singleton]
          omega
        · exact absurd hcounts hno
      · rw [hcounted, List.append_nil]
        omega
    · cases hstep
  | crash =>
    rw [DaemonHome.step] at hstep
    split at hstep
    · cases hstep
      have hsame : ({ s with lockedBy := none } : DaemonHome).counted = s.counted := rfl
      simpa [DaemonHome.forgiven, hsame] using h
    · cases hstep
  | shutdown cleaned markerRemoved pidRemoved =>
    rw [DaemonHome.step] at hstep
    split at hstep
    · cases hstep
      have hsame : (s.shutdown cleaned markerRemoved pidRemoved).counted = s.counted := by
        rw [shutdown]
        split
        · rfl
        · rfl
      simpa [DaemonHome.forgiven, hsame] using h
    · cases hstep
  | deleteFlag =>
    cases hstep
    have hsame : ({ s with flag := none } : DaemonHome).counted = s.counted := rfl
    simpa [DaemonHome.forgiven, hsame] using h

/-- A history lets nine crashes through. When nine were counted, the next crash of the daemon is the
last: no start ever goes on after it, whatever time has passed and whoever deletes the flag. -/
theorem no_start_after_nine (home : PathBuf) (es : List DaemonEvent) (s : DaemonHome)
    (hrun : exec (DaemonHome.step home) {} es = some s) :
    (yields (DaemonHome.step home) (DaemonHome.forgiven home) {} es).length ≤ 9 ∧
    (9 ≤ (yields (DaemonHome.step home) (DaemonHome.crashes home) {} es).length →
      s.running = true → ∀ es' s',
      exec (DaemonHome.step home) s (.crash :: es') = some s' →
      s'.lockedBy = none ∧
        ∀ r ∈ yields (DaemonHome.step home) (DaemonHome.results home) s (.crash :: es'),
          r.Refused) := by
  constructor
  · have hkeep : ∀ rs s e s', DaemonHome.step home s e = some s' → True →
        rs.length ≤ min s.counted 9 → (rs ++ s.forgiven home e).length ≤ min s'.counted 9 :=
      fun _ _ _ _ hstep _ h => forgiven_step h hstep
    have hzero : ([] : List StartResult).length ≤ min (DaemonHome.counted {}) 9 := Nat.zero_le _
    have hall := exec_invariant_yields hkeep hrun Along.trivial hzero
    rw [List.nil_append] at hall
    exact Nat.le_trans hall (Nat.min_le_right _ _)
  · intro hnine hrunning es' s' hafter
    obtain ⟨t, hstep, hrest⟩ := exec_cons.mp hafter
    have hcrash : t = { s with lockedBy := none } := by
      rw [DaemonHome.step] at hstep
      split at hstep
      · exact (Option.some.inj hstep).symm
      · cases hstep
    have hhalted : Halted t := by
      rw [hcrash]
      refine ⟨hrunning, ?_, rfl⟩
      rw [← (Matches.run hrun).counted] at hnine
      exact hnine
    obtain ⟨hs', hresults⟩ := hhalted.run hrest
    rw [yields_cons hstep]
    exact ⟨hs'.unlocked, hresults⟩

/-- A daemon that dies once a day, ten times. -/
def daily : List DaemonEvent :=
  .start 100 (clockAt 0) {} :: (List.range 9).flatMap fun day =>
    [.crash, .start 100 (clockAt (86400 * (day + 1))) {}]

theorem no_start_after_nine_days : ∃ s,
    exec (DaemonHome.step "/home/u/.gw") {} daily = some s ∧ s.running = true ∧
      9 ≤ (yields (DaemonHome.step "/home/u/.gw") (DaemonHome.crashes "/home/u/.gw") {}
        daily).length ∧
      ∀ es' s', exec (DaemonHome.step "/home/u/.gw") s (.crash :: es') = some s' →
        s'.lockedBy = none := by
  have hnine : 9 ≤ (yields (DaemonHome.step "/home/u/.gw") (DaemonHome.crashes "/home/u/.gw") {}
      daily).length := by decide +kernel
  obtain ⟨s, hrun, hrunning⟩ : ∃ s, exec (DaemonHome.step "/home/u/.gw") {} daily = some s ∧
      s.running = true := exists_of_any (by decide +kernel)
  refine ⟨s, hrun, hrunning, hnine, ?_⟩
  intro es' s' hafter
  exact ((no_start_after_nine "/home/u/.gw" daily s hrun).2 hnine hrunning es' s' hafter).1

end DaemonHome

end GreaterWill
