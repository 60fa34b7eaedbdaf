import GreaterWill.Engine.CompletionDetector

/-!
# One tick of the detector

What a tick reports and what it remembers. The checkpoint is asked first after the timeout, and what
it reports ends the monitoring; a prompt whose grace period is over hides what comes after it; on a
pane that has not changed the evidence and the idle times decide. Where the loop goes on, neither
the timeout nor the checkpoint has spoken.
-/

namespace GreaterWill

/-- The group is neither complete nor failed in the checkpoint, as far as it can be read. -/
def GroupOpen (groupPhases : List String) (file : Except String Checkpoint) : Prop :=
  ∀ cp, file = .ok cp →
    isGroupComplete groupPhases cp = false ∧ findFailedPhase groupPhases cp = none

namespace DetectorTick

/-- No read of the tick ends the monitoring. -/
structure Undecided (groupPhases : List String) (t : DetectorTick) : Prop where
  checkpoint : GroupOpen groupPhases t.checkpoint
  recheck : GroupOpen groupPhases t.recheck
  reread : GroupOpen groupPhases t.reread

end DetectorTick

namespace CompletionDetector

variable {probes : DetectorProbes} {d d' : CompletionDetector} {t : DetectorTick} {v : Nat}

/-- Nothing but what the detector remembers of the checkpoint is different. -/
structure SameTimers (d d' : CompletionDetector) : Prop where
  config : d'.config = d.config
  groupPhases : d'.groupPhases = d.groupPhases
  startedAt : d'.state.startedAt = d.state.startedAt
  lastPaneHash : d'.state.lastPaneHash = d.state.lastPaneHash
  lastActivity : d'.state.lastActivity = d.state.lastActivity
  nudged : d'.state.nudged = d.state.nudged
  promptDetectedAt : d'.state.promptDetectedAt = d.state.promptDetectedAt

theorem seeCheckpoint_sameTimers (d : CompletionDetector) :
    d.SameTimers (d.seeCheckpoint probes t).1 := by
  rw [seeCheckpoint]
  split
  · exact ⟨rfl, rfl, rfl, rfl, rfl, rfl, rfl⟩
  · dsimp only
    split
    · exact ⟨rfl, rfl, rfl, rfl, rfl, rfl, rfl⟩
    · split
      · exact ⟨rfl, rfl, rfl, rfl, rfl, rfl, rfl⟩
      · exact ⟨rfl, rfl, rfl, rfl, rfl, rfl, rfl⟩

theorem seeCheckpoint_open (h : GroupOpen d.groupPhases t.checkpoint) :
    (d.seeCheckpoint probes t).2 = none := by
  rw [seeCheckpoint]
  split
  · rfl
  · next cp hcp =>
    obtain ⟨hcomplete, hfailed⟩ := h cp hcp
    dsimp only
    rw [hcomplete, hfailed]
    rfl

/-- What the checkpoint reports ends the monitoring. -/
theorem seeCheckpoint_ends {event : CompletionEvent}
    (h : (d.seeCheckpoint probes t).2 = some event) (groupPhases : List String) :
    event.monitorEnd groupPhases t ≠ none := by
  rw [seeCheckpoint] at h
  split at h
  · cases h
  · dsimp only at h
    split at h
    · cases h
      exact Option.some_ne_none _
    · split at h
      · cases h
        exact Option.some_ne_none _
      · cases h

/-- The grace period of the prompt is over. -/
def PromptOver (d : CompletionDetector) (t : DetectorTick) : Prop :=
  detectPrompt t.pane = true ∧ ∃ at' ∈ d.state.promptDetectedAt,
    limit d.config.promptGracePeriod < t.now - at'

theorem PromptOver.congr (hsame : d.SameTimers d') : d'.PromptOver t ↔ d.PromptOver t := by
  rw [PromptOver, PromptOver, hsame.config, hsame.promptDetectedAt]

/-- The prompt is remembered since its first tick. -/
def noted (d : CompletionDetector) (t : DetectorTick) : Option Nat :=
  if detectPrompt t.pane then d.state.promptDetectedAt.or (some t.now)
  else d.state.promptDetectedAt

def noting (d : CompletionDetector) (t : DetectorTick) : CompletionDetector :=
  { d with state.promptDetectedAt := d.noted t }

theorem noted_of_some {at' : Nat} (h : d.state.promptDetectedAt = some at') :
    d.noted t = d.state.promptDetectedAt := by
  rw [noted, h, Option.some_or, ite_self]

theorem noting_of_some {at' : Nat} (h : d.state.promptDetectedAt = some at') :
    d.noting t = d := by
  rw [noting, noted_of_some h]

theorem seePrompt_absent (h : detectPrompt t.pane = false) :
    d.seePrompt t = (d.noting t, none) := by
  rw [seePrompt, noting, noted, h, if_neg Bool.false_ne_true, if_neg Bool.false_ne_true]

theorem seePrompt_new (h : detectPrompt t.pane = true) (hat : d.state.promptDetectedAt = none) :
    d.seePrompt t = (d.noting t, none) := by
  rw [seePrompt, noting, noted, if_pos h, if_pos h, hat, Option.none_or]

theorem seePrompt_grace {at' : Nat} (h : detectPrompt t.pane = true)
    (hat : d.state.promptDetectedAt = some at')
    (hgrace : ¬ limit d.config.promptGracePeriod < t.now - at') :
    d.seePrompt t = (d.noting t, none) := by
  rw [noting_of_some hat, seePrompt, if_pos h, hat]
  dsimp only
  rw [if_neg hgrace]

/-- Within the grace period the prompt is only noted. -/
theorem seePrompt_not_over (h : ¬ d.PromptOver t) : d.seePrompt t = (d.noting t, none) := by
  by_cases hprompt : detectPrompt t.pane = true
  · rcases Option.eq_none_or_eq_some d.state.promptDetectedAt with hat | ⟨at', hat⟩
    · exact seePrompt_new hprompt hat
    · exact seePrompt_grace hprompt hat fun hgrace => h ⟨hprompt, at', hat, hgrace⟩
  · exact seePrompt_absent (Bool.eq_false_of_not_eq_true hprompt)

/-- After it the prompt is reported, unless the second read has the group complete. -/
theorem seePrompt_over (h : d.PromptOver t) :
    d.seePrompt t = (d.noting t, some .promptReturned) ∨
      d.seePrompt t = (d.noting t, some .completed) ∧
        ∃ cp, t.recheck = .ok cp ∧ isGroupComplete d.groupPhases cp = true := by
  obtain ⟨hprompt, at', hat, hgrace⟩ := h
  rw [noting_of_some hat, seePrompt, if_pos hprompt, hat]
  dsimp only
  rw [if_pos hgrace]
  split
  · next cp hcp =>
    split
    · next hcomplete => exact .inr ⟨rfl, cp, hcp, hcomplete⟩
    · exact .inl rfl
  · exact .inl rfl

theorem seePrompt_fst (d : CompletionDetector) : (d.seePrompt t).1 = d.noting t := by
  by_cases h : d.PromptOver t
  · rcases seePrompt_over h with heq | ⟨heq, -⟩
    · rw [heq]
    · rw [heq]
  · rw [seePrompt_not_over h]

/-- The idle thresholds on a pane that has not changed. -/
def idleEvent (d : CompletionDetector) (t : DetectorTick) : CompletionEvent :=
  let idle := t.now - d.state.lastActivity
  if limit d.config.idleKillAfter < idle then .stuck
  else if limit d.config.idleNudgeAfter < idle ∧ d.state.nudged = false then .nudge
  else .stillRunning

theorem judge_unchanged (hconfig : d'.config = d.config)
    (hactivity : d'.state.lastActivity = d.state.lastActivity)
    (hnudged : d'.state.nudged = d.state.nudged) :
    d'.judge probes t false = d.idleEvent t ∨
      ∃ errorClass, d'.judge probes t false = .errorDetected errorClass := by
  rw [judge]
  split
  · exact .inr ⟨_, rfl⟩
  · left
    rw [if_neg Bool.false_ne_true, idleEvent]
    dsimp only
    rw [hconfig, hactivity, hnudged]

theorem SameTimers.noting (h : d.SameTimers d') : (d.noting t).SameTimers (d'.noting t) := by
  have hnoted : d'.noted t = d.noted t := by rw [noted, noted, h.promptDetectedAt]
  rw [CompletionDetector.noting, CompletionDetector.noting, hnoted]
  generalize d.noted t = noted
  exact
    { config := h.config
      groupPhases := h.groupPhases
      startedAt := h.startedAt
      lastPaneHash := h.lastPaneHash
      lastActivity := h.lastActivity
      nudged := h.nudged
      promptDetectedAt := rfl }

/-- A tick that the timeout and the checkpoint leave to what comes after them. -/
theorem tick_open (htime : d.timedOut t = false)
    (hnone : ((d.seePane probes t).seeCheckpoint probes t).2 = none) :
    ∃ seen, (d.seePane probes t).SameTimers seen ∧
      d.tick probes t =
        match seen.seePrompt t with
        | (seen, some event) => (seen, event)
        | (seen, none) => (seen, seen.judge probes t (d.paneChanged probes t)) := by
  have hsame : (d.seePane probes t).SameTimers
      ((d.seePane probes t).seeCheckpoint probes t).1 := seeCheckpoint_sameTimers _
  refine ⟨_, hsame, ?_⟩
  rw [tick, htime, if_neg Bool.false_ne_true]
  generalize (d.seePane probes t).seeCheckpoint probes t = result at hnone
  obtain ⟨seen, event⟩ := result
  cases hnone
  rfl

/-- What the checkpoint reports is the event of the tick. -/
theorem tick_of_checkpoint {event : CompletionEvent} (htime : d.timedOut t = false)
    (h : ((d.seePane probes t).seeCheckpoint probes t).2 = some event) :
    (d.tick probes t).2 = event := by
  rw [tick, htime, if_neg Bool.false_ne_true]
  generalize (d.seePane probes t).seeCheckpoint probes t = result at h
  obtain ⟨seen, event'⟩ := result
  cases h
  rfl

/-- Where the monitoring goes on, neither the timeout nor the checkpoint has spoken. -/
theorem tick_goes_on {groupPhases : List String}
    (h : (d.tick probes t).2.monitorEnd groupPhases t = none) :
    d.timedOut t = false ∧ ((d.seePane probes t).seeCheckpoint probes t).2 = none := by
  cases htime : d.timedOut t with
  | true =>
    rw [tick, if_pos htime] at h
    cases h
  | false =>
    refine ⟨rfl, ?_⟩
    cases hevent : ((d.seePane probes t).seeCheckpoint probes t).2 with
    | none => rfl
    | some event =>
      rw [tick_of_checkpoint htime hevent] at h
      exact absurd h (seeCheckpoint_ends hevent groupPhases)

theorem tick_open_sameTimers (htime : d.timedOut t = false)
    (hnone : ((d.seePane probes t).seeCheckpoint probes t).2 = none) :
    ((d.seePane probes t).noting t).SameTimers (d.tick probes t).1 := by
  obtain ⟨seen, htimers, heq⟩ := tick_open htime hnone
  have hfst : (seen.seePrompt t).1 = seen.noting t := seePrompt_fst seen
  rw [heq]
  split
  · next seen' event heq' =>
    rw [heq'] at hfst
    cases hfst
    exact htimers.noting
  · next seen' heq' =>
    rw [heq'] at hfst
    cases hfst
    exact htimers.noting

/-- The timers after a tick, by how far it came. -/
theorem tick_sameTimers (probes : DetectorProbes) (d : CompletionDetector) (t : DetectorTick) :
    (d.tick probes t).1 = d ∨ (d.seePane probes t).SameTimers (d.tick probes t).1 ∨
      ((d.seePane probes t).noting t).SameTimers (d.tick probes t).1 := by
  cases htime : d.timedOut t with
  | true =>
    left
    rw [tick, if_pos htime]
  | false =>
    cases hevent : ((d.seePane probes t).seeCheckpoint probes t).2 with
    | none => exact .inr (.inr (tick_open_sameTimers htime hevent))
    | some event =>
      have hsame : (d.seePane probes t).SameTimers
          ((d.seePane probes t).seeCheckpoint probes t).1 := seeCheckpoint_sameTimers _
      rw [tick, htime, if_neg Bool.false_ne_true]
      generalize (d.seePane probes t).seeCheckpoint probes t = result at hevent hsame
      obtain ⟨seen, event'⟩ := result
      cases hevent
      exact .inr (.inl hsame)

/-! ## Ticks on a pane that does not change -/

theorem seePane_unchanged (h : d.paneChanged probes t = false) : d.seePane probes t = d := by
  have hhash : d.state.lastPaneHash = some (probes.computePaneHash t.pane) := by
    rw [paneChanged] at h
    simpa using h
  rw [seePane, h, if_neg Bool.false_ne_true, ← hhash]

/-- The prompt hides whatever comes after it. -/
theorem event_of_over (htime : d.timedOut t = false)
    (hnone : ((d.seePane probes t).seeCheckpoint probes t).2 = none)
    (hsame : d.paneChanged probes t = false) (h : d.PromptOver t)
    (hopen : GroupOpen d.groupPhases t.recheck) : (d.tick probes t).2 = .promptReturned := by
  obtain ⟨seen, htimers, heq⟩ := tick_open htime hnone
  rw [seePane_unchanged hsame] at htimers
  rcases seePrompt_over ((PromptOver.congr htimers).mpr h) with hprompt | ⟨-, cp, hcp, hcomplete⟩
  · rw [heq, hprompt]
  · rw [htimers.groupPhases, (hopen cp hcp).1] at hcomplete
    cases hcomplete

/-- Without it the evidence or the idle times decide. -/
theorem event_of_not_over (htime : d.timedOut t = false)
    (hnone : ((d.seePane probes t).seeCheckpoint probes t).2 = none)
    (hsame : d.paneChanged probes t = false) (h : ¬ d.PromptOver t) :
    (d.tick probes t).2 = d.idleEvent t ∨
      ∃ errorClass, (d.tick probes t).2 = .errorDetected errorClass := by
  obtain ⟨seen, htimers, heq⟩ := tick_open htime hnone
  rw [seePane_unchanged hsame] at htimers
  rw [heq, seePrompt_not_over fun hover => h ((PromptOver.congr htimers).mp hover), hsame, noting]
  generalize seen.noted t = noted
  exact judge_unchanged htimers.config htimers.lastActivity htimers.nudged

/-! ## What the checkpoint reports -/

theorem seeCheckpoint_failed_iff {phase : String} :
    (d.seeCheckpoint probes t).2 = some (.failed phase) ↔ ∃ cp, t.checkpoint = .ok cp ∧
      isGroupComplete d.groupPhases cp = false ∧
      findFailedPhase d.groupPhases cp = some phase := by
  rw [seeCheckpoint]
  cases t.checkpoint with
  | error e => simp
  | ok cp =>
    dsimp only
    cases hcomplete : isGroupComplete d.groupPhases cp with
    | true => simp [hcomplete]
    | false =>
      cases hfailed : findFailedPhase d.groupPhases cp with
      | none => simp [hfailed]
      | some failed => simp [hcomplete, hfailed]

theorem judge_cases {changed : Bool} :
    (∃ errorClass, d.judge probes t changed = .errorDetected errorClass) ∨
      d.judge probes t changed = .stillRunning ∨ d.judge probes t changed = .stuck ∨
      d.judge probes t changed = .nudge := by
  rw [judge]
  split
  · exact .inl ⟨_, rfl⟩
  · right
    split
    · exact .inl rfl
    · dsimp only
      split
      · exact .inr (.inl rfl)
      · split
        · exact .inr (.inr rfl)
        · exact .inl rfl

/-- A tick reports a failed phase exactly of a checkpoint that has one and is not complete. -/
theorem tick_failed_iff {phase : String} : (d.tick probes t).2 = .failed phase ↔
    d.timedOut t = false ∧ ∃ cp, t.checkpoint = .ok cp ∧
      isGroupComplete d.groupPhases cp = false ∧
      findFailedPhase d.groupPhases cp = some phase := by
  have hphases : (d.seePane probes t).groupPhases = d.groupPhases := rfl
  rw [← hphases, ← seeCheckpoint_failed_iff]
  cases htime : d.timedOut t with
  | true =>
    rw [tick, if_pos htime]
    simp
  | false =>
    rw [eq_self_iff_true, true_and]
    cases hevent : ((d.seePane probes t).seeCheckpoint probes t).2 with
    | some event => rw [tick_of_checkpoint htime hevent, Option.some_inj]
    | none =>
      obtain ⟨seen, -, heq⟩ := tick_open htime hevent
      rw [heq]
      refine iff_of_false ?_ (by simp)
      by_cases hover : seen.PromptOver t
      · rcases seePrompt_over hover with hprompt | ⟨hprompt, -⟩
        · rw [hprompt]
          nofun
        · rw [hprompt]
          nofun
      · rw [seePrompt_not_over hover]
        dsimp only
        rcases judge_cases with ⟨errorClass, h⟩ | h | h | h
        all_goals
          rw [h]
          nofun

/-- A tick reports the end of a group only with a read in which it is complete. -/
theorem complete_of_tick (h : (d.tick probes t).2 = .completed) :
    ∃ cp, (t.checkpoint = .ok cp ∨ t.recheck = .ok cp) ∧
      isGroupComplete d.groupPhases cp = true := by
  cases htime : d.timedOut t with
  | true =>
    rw [tick, if_pos htime] at h
    cases h
  | false =>
    cases hevent : ((d.seePane probes t).seeCheckpoint probes t).2 with
    | some event =>
      rw [tick_of_checkpoint htime hevent] at h
      rw [h, seeCheckpoint] at hevent
      split at hevent
      · cases hevent
      · next cp hcp =>
        dsimp only at hevent
        split at hevent
        · next hcomplete => exact ⟨cp, .inl hcp, hcomplete⟩
        · split at hevent
          · cases hevent
          · cases hevent
    | none =>
      obtain ⟨seen, hsame, heq⟩ := tick_open htime hevent
      have hphases : seen.groupPhases = d.groupPhases := hsame.groupPhases
      rw [heq] at h
      by_cases hover : seen.PromptOver t
      · rcases seePrompt_over hover with hprompt | ⟨-, cp, hcp, hcomplete⟩
        · rw [hprompt] at h
          cases h
        · rw [hphases] at hcomplete
          exact ⟨cp, .inr hcp, hcomplete⟩
      · rw [seePrompt_not_over hover] at h
        dsimp only at h
        rcases judge_cases with ⟨errorClass, heq⟩ | heq | heq | heq
        all_goals
          rw [heq] at h
          cases h

theorem groupPhases_tick : (d.tick probes t).1.groupPhases = d.groupPhases := by
  rcases d.tick_sameTimers probes t with heq | hsame | hsame
  · rw [heq]
  · exact hsame.groupPhases
  · exact hsame.groupPhases

end CompletionDetector

/-! ## A round of the loop -/

namespace GroupMonitor

variable {probes : DetectorProbes} {m m' : GroupMonitor} {t : DetectorTick}

theorem step_eq_some : m.step probes t = some m' ↔
    m.ended probes t = none ∧ m.next probes t = m' := by
  rw [step]
  cases m.ended probes t with
  | some ended => simp
  | none => simp

theorem detector_next (probes : DetectorProbes) (m : GroupMonitor) (t : DetectorTick) :
    (m.next probes t).detector = (m.detector.tick probes t).1 ∨
      m.event probes t = .nudge ∧
        (m.next probes t).detector = (m.detector.tick probes t).1.markNudged := by
  rw [next]
  by_cases hnudge : m.event probes t = .nudge ∧ m.nudgeSentFor t = false
  · rw [if_pos hnudge]
    exact .inr ⟨hnudge.1, rfl⟩
  · rw [if_neg hnudge]
    exact .inl rfl

/-- Where the loop goes on, neither the timeout nor the checkpoint has spoken. -/
theorem goes_on (h : m.step probes t = some m') :
    m.detector.timedOut t = false ∧
      ((m.detector.seePane probes t).seeCheckpoint probes t).2 = none := by
  obtain ⟨hended, -⟩ := step_eq_some.mp h
  rw [ended, event] at hended
  exact CompletionDetector.tick_goes_on hended

theorem groupPhases_next : (m.next probes t).detector.groupPhases = m.detector.groupPhases := by
  rcases m.detector_next probes t with heq | ⟨-, heq⟩
  · rw [heq]
    exact CompletionDetector.groupPhases_tick
  · rw [heq]
    exact CompletionDetector.groupPhases_tick

/-- The monitoring ends in a round of which it says so. -/
theorem monitoring_spec {ts : List DetectorTick} {ended : MonitorEnd}
    (h : m.monitoring probes ts = some (t, ended)) :
    ∃ m' : GroupMonitor, m'.ended probes t = some ended ∧
      m'.detector.groupPhases = m.detector.groupPhases := by
  induction ts generalizing m with
  | nil => cases h
  | cons u us ih =>
    rw [monitoring] at h
    split at h
    · next ended' heq =>
      cases h
      exact ⟨m, heq, rfl⟩
    · obtain ⟨m', hended, hphases⟩ := ih h
      exact ⟨m', hended, hphases.trans groupPhases_next⟩

theorem event_of_failed {phase : String} (h : m.ended probes t = some (.failed phase)) :
    m.event probes t = .failed phase := by
  rw [ended] at h
  cases hevent : m.event probes t with
  | failed phase' =>
    rw [hevent] at h
    cases h
    rfl
  | promptReturned =>
    rw [hevent, CompletionEvent.monitorEnd] at h
    split at h
    · split at h
      · cases h
      · cases h
    · cases h
  | completed | stillRunning | nudge | stuck | timeout | errorDetected errorClass =>
    rw [hevent] at h
    cases h

/-- The executor is told of a failed phase that the group has in the checkpoint. -/
theorem monitoring_failed {config : CompletionConfig} {group : PhaseGroup} {startedAt : Nat}
    {ts : List DetectorTick} {phase : String}
    (h : (new config group.phases startedAt).monitoring probes ts = some (t, .failed phase)) :
    group.findFailedPhase t.checkpoint = some phase := by
  obtain ⟨m, hended, hphases⟩ := monitoring_spec h
  obtain ⟨-, cp, hcp, -, hfailed⟩ := CompletionDetector.tick_failed_iff.mp (event_of_failed hended)
  rw [hphases] at hfailed
  rw [hcp]
  exact hfailed

/-- It is told of the end of a group that is complete in one of the reads. -/
theorem monitoring_completed {config : CompletionConfig} {group : PhaseGroup} {startedAt : Nat}
    {ts : List DetectorTick}
    (h : (new config group.phases startedAt).monitoring probes ts = some (t, .completed)) :
    group.isCompleteIn t.checkpoint = true ∨ group.isCompleteIn t.recheck = true ∨
      group.isCompleteIn t.reread = true := by
  obtain ⟨m, hended, hphases⟩ := monitoring_spec h
  rw [ended] at hended
  cases hevent : m.event probes t with
  | completed =>
    obtain ⟨cp, hcp, hcomplete⟩ := CompletionDetector.complete_of_tick hevent
    rw [hphases] at hcomplete
    rcases hcp with hcp | hcp
    · rw [hcp]
      exact .inl hcomplete
    · rw [hcp]
      exact .inr (.inl hcomplete)
  | promptReturned =>
    rw [hevent, CompletionEvent.monitorEnd] at hended
    split at hended
    · next cp hcp =>
      split at hended
      · next hcomplete =>
        rw [hphases] at hcomplete
        rw [hcp]
        exact .inr (.inr hcomplete)
      · cases hended
    · cases hended
  | failed _ | stillRunning | nudge | stuck | timeout | errorDetected _ =>
    rw [hevent] at hended
    cases hended

end GroupMonitor

end GreaterWill
