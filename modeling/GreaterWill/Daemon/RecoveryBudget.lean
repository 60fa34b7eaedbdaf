import GreaterWill.Daemon.MonitorOutcome

/-!
# The recovery budget of a run

The crash loop detector bounds the recoveries of a run by what it finds in the crash history, so the
bound is one on the sessions that are counted there. A run of the daemon is, for one of its runs, a
sequence of monitor outcomes with any operations on the registry in between. The sessions that were
not counted are kept apart: the others stay below the ceiling whatever the outcomes are.
-/

namespace GreaterWill

/-- The restarts a crash history counts. -/
def restartsIn (history : Option CrashHistoryRecord) : Nat := (history.map (·.totalRestarts)).getD 0

/-- The lifetime ceiling of the detector. -/
def restartCeiling (cfg : WatchdogConfig) : Nat :=
  (CrashLoopDetector.fromWatchdog cfg).maxTotalRestarts

structure Budget where
  world : RunWorld
  /-- Sessions that were spawned while the count in the history did not grow. -/
  uncounted : Nat

inductive BudgetEvent where
  /-- A monitor of the run ends. -/
  | outcome (outcome : Option DaemonRunOutcome) (answers : OutcomeAnswers)
  | other (op : Op)

namespace RunWorld

variable (cfg : WatchdogConfig) (host : Host) (runId : String) (w : RunWorld) (a : OutcomeAnswers)

/-- The run is there and has not ended. -/
def live : Bool := (w.statusOf runId).any (!·.isTerminal)

def ended : Bool := (w.statusOf runId).any (·.isTerminal)

/-- The session that ended was shorter than the stability period. -/
def ShortSession (utcNow : DateTime) : Prop :=
  ∀ entry ∈ w.registry.get runId,
    computeRunUptimeSecs entry utcNow < asSecs (CrashLoopDetector.fromWatchdog cfg).stabilityPeriod

instance (utcNow : DateTime) : Decidable (w.ShortSession cfg runId utcNow) :=
  inferInstanceAs (Decidable (∀ entry ∈ w.registry.get runId, _))

/-- The outcome spawns no session that is not counted: the recovery after a network error spawns
none, nor does one whose history could not be written. -/
def Charged : Option DaemonRunOutcome → Prop
  | none => True
  | some outcome =>
    w.live runId = true → a.spawns = true →
      ¬ (outcome.isNetworkError = true ∧ a.Restored) ∧
      ¬ (outcome.retried.isSome = true ∧ w.Allows cfg runId a ∧ a.backoffInterrupted = false ∧
        a.persistIo ≠ .ok ())

end RunWorld

namespace Budget

variable (cfg : WatchdogConfig) (host : Host) (runId : String)

/-- One event; no session lasts as long as the stability period. -/
def step (s : Budget) : BudgetEvent → Option Budget
  | .outcome outcome a =>
    if s.world.ShortSession cfg runId a.utcNow then
      let w := s.world.handleMonitorOutcome cfg host runId a outcome
      let slipped :=
        s.world.sessions < w.sessions ∧ restartsIn w.history ≤ restartsIn s.world.history
      some ⟨w, if slipped then s.uncounted + 1 else s.uncounted⟩
    else none
  | .other op =>
    (opStep host s.world.registry op).map fun r =>
      { s with world := { s.world with registry := r } }

/-- Nothing was spawned yet. -/
def start (registry : RunRegistry) (history : Option CrashHistoryRecord) : Budget :=
  ⟨⟨registry, history, 0⟩, 0⟩

/-- The sessions are fewer than the ceiling, and each of them was counted. -/
def Within (s : Budget) : Prop := s.world.sessions < restartCeiling cfg ∧ s.uncounted = 0

def Charged (s : Budget) : BudgetEvent → Prop
  | .outcome outcome a => s.world.Charged cfg runId a outcome
  | .other _ => True

end Budget

/-! ## What an outcome spends -/

namespace RunWorld

variable {cfg : WatchdogConfig} {host : Host} {runId : String} {w : RunWorld} {a : OutcomeAnswers}
  {entry : RunEntry} {outcome : Option DaemonRunOutcome}

theorem one_le_restartCeiling (cfg : WatchdogConfig) : 1 ≤ restartCeiling cfg :=
  Nat.le_trans cfg.one_le_maxCrashRetries (Nat.le_max_right _ _)

theorem maxTotalRestarts_detector :
    (w.detector cfg a entry).maxTotalRestarts = restartCeiling cfg := by
  have hloaded : (w.loaded cfg a).maxTotalRestarts = restartCeiling cfg := by
    unfold loaded
    split <;> rfl
  rw [detector, CrashLoopDetector.recordHealthyRuntime_eq]
  split
  · exact hloaded
  · split <;> exact hloaded

/-- A short session leaves the count of the history as it is. -/
theorem totalRestarts_detector
    (hshort : computeRunUptimeSecs entry a.utcNow <
      asSecs (CrashLoopDetector.fromWatchdog cfg).stabilityPeriod) :
    (w.detector cfg a entry).totalRestarts = restartsIn w.history := by
  have hperiod : (w.loaded cfg a).stabilityPeriod =
      (CrashLoopDetector.fromWatchdog cfg).stabilityPeriod := by
    unfold loaded
    split <;> rfl
  have hloaded : (w.loaded cfg a).totalRestarts = restartsIn w.history := by
    unfold loaded
    cases w.history <;> rfl
  rw [detector, CrashLoopDetector.recordHealthyRuntime_eq, hperiod]
  split
  · exact hloaded
  · rw [if_neg (Nat.not_le.mpr hshort)]
    exact hloaded

theorem live_eq (h : w.registry.get runId = some entry) :
    w.live runId = !entry.status.isTerminal := by
  rw [live, statusOf, h, Option.map_some, Option.any_some]

@[simp] theorem sessions_updateStatus {now : DateTime}
    {change : Option (RunStatus × Option String × Option String)} :
    (w.updateStatus host runId now change).sessions = w.sessions := by
  cases change <;> rfl

@[simp] theorem history_updateStatus {now : DateTime}
    {change : Option (RunStatus × Option String × Option String)} :
    (w.updateStatus host runId now change).history = w.history := by
  cases change <;> rfl

theorem not_ended_of_live (hlive : w.live runId = true) : ¬ w.ended runId = true := by
  obtain ⟨status, hstatus, hnot⟩ := (Option.any_eq_true _ _).mp hlive
  rw [ended, hstatus, Option.any_some]
  intro hended
  rw [hended] at hnot
  cases hnot

theorem sessions_attemptRecovery : (w.attemptRecovery host runId a).sessions =
    if w.live runId = true ∧ a.spawns = true then w.sessions + 1 else w.sessions := by
  rw [attemptRecovery]
  cases hget : w.registry.get runId with
  | none => simp [live, statusOf, hget]
  | some entry =>
    rw [live_eq hget]
    dsimp only
    by_cases hterm : entry.status.isTerminal = true
    · simp [hterm]
    · rw [if_neg hterm, Bool.not_eq_true] at *
      by_cases hrestart : a.decision = .restart
      · simp [hterm, hrestart, OutcomeAnswers.spawns, spawnRecovery]
      · simp [hrestart, OutcomeAnswers.spawns]

@[simp] theorem history_attemptRecovery :
    (w.attemptRecovery host runId a).history = w.history := by
  unfold attemptRecovery
  split
  · rfl
  · split
    · rfl
    · split
      · rfl
      · exact history_updateStatus

theorem ended_congr {w' : RunWorld} (h : w'.registry = w.registry) :
    w'.ended runId = w.ended runId := by
  rw [ended, ended, statusOf_congr h]

/-- A run that is there ends with a terminal status. -/
theorem ended_updateStatus (h : (w.registry.get runId).isSome = true) {now : DateTime}
    {status : RunStatus} {phase error : Option String} (hterm : status.isTerminal = true) :
    (w.updateStatus host runId now (some (status, phase, error))).ended runId = true := by
  obtain ⟨entry, hget⟩ := Option.isSome_iff_exists.mp h
  rw [ended, statusOf_updateStatus hterm, statusOf, hget]
  exact hterm

theorem ended_attemptRecovery (h : w.ended runId = true) :
    w.attemptRecovery host runId a = w := by
  obtain ⟨status, hstatus, hterm⟩ := (Option.any_eq_true _ _).mp h
  obtain ⟨entry, hget, rfl⟩ := exists_of_statusOf hstatus
  rw [attemptRecovery, hget]
  exact if_pos hterm

variable (runId) in
/-- An outcome that spawns no session. -/
def Spares (w w' : RunWorld) : Prop :=
  w'.sessions = w.sessions ∧
    (w'.ended runId = true ∨ restartsIn w.history ≤ restartsIn w'.history)

variable (cfg runId) in
/-- An outcome that spawns a session and counts it. -/
def Counts (w w' : RunWorld) : Prop :=
  w.live runId = true ∧ w'.sessions = w.sessions + 1 ∧
    restartsIn w'.history = restartsIn w.history + 1 ∧ restartsIn w'.history < restartCeiling cfg

/-- An outcome that spawns a session without counting it. -/
def Slips (w w' : RunWorld) : Prop :=
  w'.sessions = w.sessions + 1 ∧ restartsIn w'.history = restartsIn w.history

variable (cfg runId w a outcome) in
/-- An outcome is free of charge, is charged for, or ought to be. -/
def Costs (w' : RunWorld) : Prop :=
  (w.Charged cfg runId a outcome ∧ (Spares runId w w' ∨ Counts cfg runId w w')) ∨
    (¬ w.Charged cfg runId a outcome ∧ Slips w w')

section
variable {outcome : DaemonRunOutcome} {errorClass : ErrorClass} {reason : String}

theorem costs_networkError (hnet : outcome.isNetworkError = true) :
    Costs cfg runId w a (some outcome)
      (w.handleMonitorOutcome cfg host runId a (some outcome)) := by
  have hcharged : ¬ (a.Restored ∧ w.live runId = true ∧ a.spawns = true) ↔
      w.Charged cfg runId a (some outcome) := by
    rw [Charged, retried_of_isNetworkError hnet]
    simp only [hnet, true_and, Option.isSome_none, Bool.false_eq_true, false_and, not_false_eq_true,
      and_true]
    exact ⟨fun h hlive hspawns hrestored => h ⟨hrestored, hlive, hspawns⟩,
      fun h hall => h hall.2.1 hall.2.2 hall.1⟩
  rw [Costs, ← hcharged, handle_networkError hnet]
  split
  · next hwaits =>
    have hnot : ¬ a.Restored := by
      rw [OutcomeAnswers.Restored, hwaits]
      intro hor
      rcases hor with h | h <;> cases h
    exact .inl ⟨fun hall => hnot hall.1, .inl ⟨rfl, .inr (Nat.le_refl _)⟩⟩
  · split
    · next hrestored =>
      by_cases hspawns : w.live runId = true ∧ a.spawns = true
      · refine .inr ⟨fun hnot => hnot ⟨hrestored, hspawns⟩, ?_, ?_⟩
        · rw [sessions_attemptRecovery, if_pos hspawns]
        · rw [history_attemptRecovery]
      · refine .inl ⟨fun hall => hspawns hall.2, .inl ⟨?_, .inr ?_⟩⟩
        · rw [sessions_attemptRecovery, if_neg hspawns]
        · rw [history_attemptRecovery]
    · next hnot =>
      refine .inl ⟨fun hall => hnot hall.1, .inl ⟨sessions_updateStatus, .inr ?_⟩⟩
      rw [history_updateStatus]

/-- A crash that is let go on with is counted, if the history can be written. -/
theorem restarts_of_allows (hget : w.registry.get runId = some entry)
    (hshort : w.ShortSession cfg runId a.utcNow) (hallow : w.Allows cfg runId a) :
    ((w.detector cfg a entry).recordRestartForPhase entry.currentPhase a.now).1.totalRestarts =
        restartsIn w.history + 1 ∧
      restartsIn w.history + 1 < restartCeiling cfg := by
  obtain ⟨e, he, hanswer⟩ := hallow
  rw [hget] at he
  cases he
  have htotal : (w.detector cfg a entry).totalRestarts = restartsIn w.history :=
    totalRestarts_detector (hshort entry hget)
  obtain ⟨hlimit, -, -⟩ := (CrashLoopDetector.recordRestartForPhase_snd _).mp hanswer
  rw [htotal, maxTotalRestarts_detector] at hlimit
  obtain ⟨kept, heq⟩ :=
    (w.detector cfg a entry).recordRestartForPhase_fst entry.currentPhase a.now
  refine ⟨?_, hlimit⟩
  rw [heq]
  exact congrArg (· + 1) htotal

theorem costs_retried (hshort : w.ShortSession cfg runId a.utcNow)
    (hretried : outcome.retried = some (errorClass, reason)) :
    Costs cfg runId w a (some outcome)
      (w.handleMonitorOutcome cfg host runId a (some outcome)) := by
  have hnet : outcome.isNetworkError = false := by
    rw [← Bool.not_eq_true]
    intro hnet
    rw [retried_of_isNetworkError hnet] at hretried
    cases hretried
  have hcharged : (w.Charged cfg runId a (some outcome) ↔ (w.live runId = true → a.spawns = true →
      w.Allows cfg runId a → a.backoffInterrupted = false → a.persistIo = .ok ())) := by
    rw [Charged, hretried, hnet]
    simp only [Bool.false_eq_true, false_and, not_false_eq_true, Option.isSome_some, true_and,
      not_and, Classical.not_not]
  rw [Costs, hcharged, handle_retried hretried]
  cases hget : w.registry.get runId with
  | none =>
    have hnone : ¬ w.live runId = true := by simp [live, statusOf, hget]
    rw [retry, hget]
    exact .inl ⟨fun hlive => absurd hlive hnone, .inl ⟨rfl, .inr (Nat.le_refl _)⟩⟩
  | some entry =>
    rcases retry_cases host errorClass reason hget with
      ⟨hstop, heq⟩ | ⟨hallow, w', hreg, hsessions, hhistory, heq⟩
    · refine .inl ⟨fun _ _ hallow => absurd hallow hstop, .inl ⟨?_, .inl ?_⟩⟩
      · rw [heq]
        exact sessions_updateStatus
      · rw [heq]
        exact (ended_congr rfl).trans
          (ended_updateStatus (Option.isSome_iff_exists.mpr ⟨entry, hget⟩) rfl)
    · obtain ⟨hcount, hlimit⟩ := restarts_of_allows hget hshort hallow
      have hmono : restartsIn w.history ≤ restartsIn w'.history := by
        rw [hhistory]
        cases a.persistIo with
        | ok => exact Nat.le_trans (Nat.le_succ _) (Nat.le_of_eq hcount.symm)
        | error => exact Nat.le_refl _
      rw [heq]
      split
      · next hint =>
        refine .inl ⟨fun _ _ _ hnot => ?_, .inl ⟨hsessions, .inr hmono⟩⟩
        rw [hint] at hnot
        cases hnot
      · next hint =>
        have hlive : w'.live runId = w.live runId := by
          rw [live, live, statusOf_congr hreg]
        by_cases hspawns : w.live runId = true ∧ a.spawns = true
        · have hspent : (w'.attemptRecovery host runId a).sessions = w.sessions + 1 := by
            rw [sessions_attemptRecovery, hlive, if_pos hspawns, hsessions]
          cases hio : a.persistIo with
          | ok =>
            rw [hio] at hhistory
            refine .inl ⟨fun _ _ _ _ => rfl, .inr ⟨hspawns.1, hspent, ?_, ?_⟩⟩
            · rw [history_attemptRecovery, hhistory]
              exact hcount
            · rw [history_attemptRecovery, hhistory]
              exact lt_of_eq_of_lt hcount hlimit
          | error e =>
            rw [hio] at hhistory
            refine .inr ⟨fun hall => ?_, hspent, ?_⟩
            · cases hall hspawns.1 hspawns.2 hallow (Bool.eq_false_iff.mpr hint)
            · rw [history_attemptRecovery, hhistory]
        · refine .inl ⟨fun h₁ h₂ => absurd ⟨h₁, h₂⟩ hspawns, .inl ⟨?_, .inr ?_⟩⟩
          · rw [sessions_attemptRecovery, hlive, if_neg hspawns, hsessions]
          · rw [history_attemptRecovery]
            exact hmono

theorem costs_ends (hretried : outcome.retried = none) (hnet : outcome.isNetworkError = false) :
    Costs cfg runId w a (some outcome)
      (w.handleMonitorOutcome cfg host runId a (some outcome)) := by
  obtain ⟨status, phase, error, hterm, hreg, hsessions, hhistory⟩ :=
    handle_ends cfg host runId w a hretried hnet
  refine .inl ⟨?_, .inl ⟨hsessions, ?_⟩⟩
  · rw [Charged, hretried, hnet]
    exact fun _ _ => ⟨fun hno => Bool.noConfusion hno.1, fun hno => Bool.noConfusion hno.1⟩
  · rcases hhistory with hsome | hsame
    · left
      rw [ended_congr hreg]
      exact ended_updateStatus hsome hterm
    · right
      rw [hsame]

end

theorem costs_handle (hshort : w.ShortSession cfg runId a.utcNow) :
    Costs cfg runId w a outcome (w.handleMonitorOutcome cfg host runId a outcome) := by
  rcases outcome with _ | outcome
  · exact .inl ⟨trivial, .inl ⟨rfl, .inr (Nat.le_refl _)⟩⟩
  cases hnet : outcome.isNetworkError with
  | true => exact costs_networkError hnet
  | false =>
    cases hretried : outcome.retried with
    | some asked => exact costs_retried hshort hretried
    | none => exact costs_ends hretried hnet

/-- What has ended is not begun again. -/
theorem ended_handle (h : w.ended runId = true) :
    (w.handleMonitorOutcome cfg host runId a outcome).ended runId = true := by
  obtain ⟨entry, hget⟩ : ∃ entry, w.registry.get runId = some entry := by
    obtain ⟨status, hstatus, -⟩ := (Option.any_eq_true _ _).mp h
    obtain ⟨entry, hget, -⟩ := exists_of_statusOf hstatus
    exact ⟨entry, hget⟩
  have hsome : (w.registry.get runId).isSome = true := Option.isSome_iff_exists.mpr ⟨entry, hget⟩
  rcases outcome with _ | outcome
  · exact h
  cases hnet : outcome.isNetworkError with
  | true =>
    rw [handle_networkError hnet]
    split
    · exact h
    · split
      · rw [ended_attemptRecovery h]
        exact h
      · exact ended_updateStatus hsome rfl
  | false =>
    cases hretried : outcome.retried with
    | some asked =>
      rw [handle_retried hretried]
      rcases retry_cases host asked.1 asked.2 hget with ⟨-, heq⟩ | ⟨-, w', hreg, -, -, heq⟩
      · rw [heq]
        exact (ended_congr rfl).trans (ended_updateStatus hsome rfl)
      · have h' : w'.ended runId = true := (ended_congr hreg).trans h
        rw [heq]
        split
        · exact h'
        · rw [ended_attemptRecovery h']
          exact h'
    | none =>
      obtain ⟨status, phase, error, hterm, hreg, -, -⟩ :=
        handle_ends cfg host runId w a hretried hnet
      rw [ended_congr hreg]
      exact ended_updateStatus hsome hterm

/-- A run whose restarts are used up is Failed by the next crash. -/
theorem failed_of_spent {outcome : DaemonRunOutcome} (hshort : w.ShortSession cfg runId a.utcNow)
    (hretried : outcome.retried.isSome = true) (hlive : w.live runId = true)
    (hspent : restartCeiling cfg ≤ restartsIn w.history + 1) :
    (w.handleMonitorOutcome cfg host runId a (some outcome)).statusOf runId = some .failed := by
  obtain ⟨⟨errorClass, reason⟩, hasked⟩ := Option.isSome_iff_exists.mp hretried
  obtain ⟨status, hstatus, -⟩ := (Option.any_eq_true _ _).mp hlive
  obtain ⟨entry, hget, -⟩ := exists_of_statusOf hstatus
  rw [handle_retried hasked]
  rcases retry_cases host errorClass reason hget with ⟨-, heq⟩ | ⟨hallow, -⟩
  · rw [heq, statusOf_congr rfl]
    refine (statusOf_updateStatus rfl).trans ?_
    rw [hstatus]
    rfl
  · have := (restarts_of_allows hget hshort hallow).2
    omega

end RunWorld

/-! ## Runs -/

namespace Budget

variable {cfg : WatchdogConfig} {host : Host} {runId : String} {s s' : Budget} {e : BudgetEvent}

variable (cfg runId) in
/-- The sessions of a run that goes on are in the history, but for those that slipped. -/
structure Booked (s : Budget) : Prop where
  covered : s.world.ended runId = true ∨
    s.world.sessions ≤ restartsIn s.world.history + s.uncounted
  bounded : s.world.sessions < restartCeiling cfg + s.uncounted

theorem booked_start (registry : RunRegistry) (history : Option CrashHistoryRecord) :
    (start registry history).Booked cfg runId where
  covered := .inr (Nat.zero_le _)
  bounded := RunWorld.one_le_restartCeiling cfg

/-- An operation of another task does not begin again what has ended. -/
theorem ended_of_opStep {w : RunWorld} {op : Op} {r : RunRegistry}
    (hop : opStep host w.registry op = some r) (h : w.ended runId = true) :
    ({ w with registry := r } : RunWorld).ended runId = true := by
  obtain ⟨status, hstatus, hterm⟩ := (Option.any_eq_true _ _).mp h
  obtain ⟨entry, hget, rfl⟩ := RunWorld.exists_of_statusOf hstatus
  obtain ⟨entry', hget', hev⟩ := RunRegistry.opStep_evolves hop hget
  rw [RunWorld.ended, RunWorld.statusOf, hget']
  exact hev.isTerminal hterm

/-- What an outcome costs is booked, and it is within the budget if it was charged. -/
theorem booked_outcome {outcome : Option DaemonRunOutcome} {a : OutcomeAnswers}
    (hs : s.step cfg host runId (.outcome outcome a) = some s') (h : s.Booked cfg runId) :
    s'.Booked cfg runId ∧
      (s.Within cfg → (s'.Within cfg ↔ s.world.Charged cfg runId a outcome)) := by
  simp only [step] at hs
  split at hs
  · next hshort =>
    cases hs
    have hcosts : RunWorld.Costs cfg runId s.world a outcome
        (s.world.handleMonitorOutcome cfg host runId a outcome) := RunWorld.costs_handle hshort
    have hends : s.world.ended runId = true →
        (s.world.handleMonitorOutcome cfg host runId a outcome).ended runId = true :=
      RunWorld.ended_handle
    generalize s.world.handleMonitorOutcome cfg host runId a outcome = w at hcosts hends ⊢
    obtain ⟨hcovered, hbounded⟩ := h
    rcases hcosts with
      ⟨hcharged, ⟨hsame, hkept⟩ | ⟨hlive, hmore, hcount, hlimit⟩⟩ | ⟨hnot, hmore, hsame⟩
    · -- nothing was spawned
      rw [if_neg fun hboth => absurd hboth.1 (by omega)]
      refine ⟨⟨?_, ?_⟩, fun hwithin => iff_of_true ⟨?_, hwithin.2⟩ hcharged⟩
      · rcases hcovered with hended | hle
        · exact .inl (hends hended)
        · refine hkept.imp id fun hkept => ?_
          dsimp only
          omega
      · dsimp only
        omega
      · have := hwithin.1
        dsimp only
        omega
    · -- the session is in the history, and so are those before it
      have hle : s.world.sessions ≤ restartsIn s.world.history + s.uncounted :=
        hcovered.resolve_left fun hended => RunWorld.not_ended_of_live hlive hended
      rw [if_neg fun hboth => absurd hboth.2 (by omega)]
      refine ⟨⟨.inr ?_, ?_⟩, fun hwithin => iff_of_true ⟨?_, hwithin.2⟩ hcharged⟩
      · dsimp only
        omega
      · dsimp only
        omega
      · have := hwithin.2
        dsimp only
        omega
    · -- the session slipped
      rw [if_pos ⟨by omega, Nat.le_of_eq hsame⟩]
      refine ⟨⟨?_, ?_⟩, fun _ => iff_of_false (fun hwithin => Nat.succ_ne_zero _ hwithin.2) hnot⟩
      · refine hcovered.imp hends fun hle => ?_
        dsimp only
        omega
      · dsimp only
        omega
  · cases hs

theorem booked_step (hs : s.step cfg host runId e = some s') (h : s.Booked cfg runId) :
    s'.Booked cfg runId := by
  cases e with
  | outcome outcome a => exact (booked_outcome hs h).1
  | other op =>
    obtain ⟨r, hop, rfl⟩ := Option.map_eq_some_iff.mp hs
    exact ⟨h.covered.imp_left (ended_of_opStep hop), h.bounded⟩

theorem within_step (hs : s.step cfg host runId e = some s') (h : s.Booked cfg runId)
    (hwithin : s.Within cfg) : s'.Within cfg ↔ s.Charged cfg runId e := by
  cases e with
  | outcome outcome a => exact (booked_outcome hs h).2 hwithin
  | other op =>
    obtain ⟨r, -, rfl⟩ := Option.map_eq_some_iff.mp hs
    exact iff_of_true hwithin trivial

end Budget

open Budget

/-- In a run in which no session lasts as long as the stability period, the recovery sessions stay
below the ceiling and are all counted exactly if every outcome is charged; and then the next crash
after the last of them is the end of the run. -/
theorem recoveries_within_budget_iff (cfg : WatchdogConfig) (host : Host) (runId : String)
    (registry : RunRegistry) (history : Option CrashHistoryRecord) (es : List BudgetEvent)
    (s' : Budget) (hrun : exec (Budget.step cfg host runId) (start registry history) es = some s') :
    ((∀ pre post s, es = pre ++ post →
        exec (Budget.step cfg host runId) (start registry history) pre = some s → s.Within cfg) ↔
      Along (Budget.step cfg host runId) (Budget.Charged cfg runId) (start registry history) es) ∧
    (Along (Budget.step cfg host runId) (Budget.Charged cfg runId) (start registry history) es →
      ∀ pre post s outcome a, es = pre ++ post →
        exec (Budget.step cfg host runId) (start registry history) pre = some s →
        restartCeiling cfg ≤ s.world.sessions + 1 →
        s.world.ShortSession cfg runId a.utcNow → s.world.live runId = true →
        DaemonRunOutcome.retried outcome ≠ none →
        (s.world.handleMonitorOutcome cfg host runId a (some outcome)).statusOf runId =
          some .failed) := by
  have hiff : (∀ pre post s, es = pre ++ post →
        exec (Budget.step cfg host runId) (start registry history) pre = some s → s.Within cfg) ↔
      Along (Budget.step cfg host runId) (Budget.Charged cfg runId) (start registry history) es :=
    forall_prefix_iff_along (J := Booked cfg runId) (fun _ _ _ => booked_step)
      (fun _ _ _ hs hJ hI => within_step hs hJ hI) hrun (booked_start registry history)
      ⟨RunWorld.one_le_restartCeiling cfg, rfl⟩
  refine ⟨hiff, fun hcharged pre post s outcome a hes hpre hspent hshort hlive hretried => ?_⟩
  have hwithin : s.Within cfg := hiff.mpr hcharged pre post s hes hpre
  have hbooked : s.Booked cfg runId :=
    exec_preserves (fun _ _ _ => booked_step) hpre (booked_start registry history)
  have hle := hbooked.covered.resolve_left fun hended => RunWorld.not_ended_of_live hlive hended
  refine RunWorld.failed_of_spent hshort (Option.isSome_iff_ne_none.mpr hretried) hlive ?_
  have := hwithin.2
  omega

/-- With a ceiling of two there is one recovery: the second crash is the end of the run. -/
theorem second_crash_fails_run :
    ∃ s, exec (Budget.step (.fromEnv fun _ => some 2) .plain "a")
        (start (RunWorld.running "a").registry none) [.outcome (some (.crashed "gone")) .plain] =
          some s ∧
      s.world.sessions = 1 ∧ s.Within (.fromEnv fun _ => some 2) ∧
      (s.world.handleMonitorOutcome (.fromEnv fun _ => some 2) .plain "a" .plain
        (some (.stuck "no output"))).statusOf "a" = some .failed := by
  obtain ⟨s, hrun, hsessions, hshort, hlive⟩ := exists_of_any
    (o := exec (Budget.step (.fromEnv fun _ => some 2) .plain "a")
      (start (RunWorld.running "a").registry none) [.outcome (some (.crashed "gone")) .plain])
    (P := fun s => s.world.sessions = 1 ∧ s.world.ShortSession (.fromEnv fun _ => some 2) "a" 0 ∧
      s.world.live "a" = true) (by decide +kernel)
  have hcharged : Along (Budget.step (.fromEnv fun _ => some 2) .plain "a")
      (Budget.Charged (.fromEnv fun _ => some 2) "a") (start (RunWorld.running "a").registry none)
      [.outcome (some (.crashed "gone")) .plain] := by
    rw [exec_singleton] at hrun
    refine (Along.cons hrun).mpr ⟨fun _ _ => ⟨?_, ?_⟩, trivial⟩
    · exact fun hnet => Bool.noConfusion hnet.1
    · exact fun hfails => hfails.2.2.2 rfl
  obtain ⟨hiff, hfailed⟩ := recoveries_within_budget_iff (.fromEnv fun _ => some 2) .plain "a"
    (RunWorld.running "a").registry none [.outcome (some (.crashed "gone")) .plain] s hrun
  refine ⟨s, hrun, hsessions, hiff.mpr hcharged _ [] s (List.append_nil _).symm hrun, ?_⟩
  exact hfailed hcharged _ [] s _ .plain (List.append_nil _).symm hrun
    (by rw [hsessions]; decide) hshort hlive nofun

/-- A network that fails again and again: the run is respawned as often as the ceiling says, and
none of it is counted. -/
theorem network_errors_not_counted :
    ∃ s, exec (Budget.step .default .plain "a") (start (RunWorld.running "a").registry none)
        (List.replicate (restartCeiling .default)
          (.outcome (some (.errorDetected .networkError "fetch failed")) .plain)) = some s ∧
      s.world.sessions = restartCeiling .default ∧ restartsIn s.world.history = 0 ∧
      ¬ s.Within .default := by
  obtain ⟨s, hrun, hsessions, hnone⟩ := exists_of_any
    (o := exec (Budget.step .default .plain "a") (start (RunWorld.running "a").registry none)
        (List.replicate (restartCeiling .default)
          (.outcome (some (.errorDetected .networkError "fetch failed")) .plain)))
    (P := fun s => s.world.sessions = restartCeiling .default ∧ restartsIn s.world.history = 0)
    (by decide +kernel)
  refine ⟨s, hrun, hsessions, hnone, fun hwithin => ?_⟩
  have := hwithin.1
  omega

end GreaterWill
