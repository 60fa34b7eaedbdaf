import GreaterWill.Engine.RetryCoordinator
import GreaterWill.Lib.Run

/-!
# The budget and the backoff curve of the retries

`should_retry` counts a failure and then asks for the backoff of the count, so that the first retry
waits as long as the second one is meant to. Every class but an overload of the API has a flat
curve; there the delay is that of the next attempt until the curve is at its end. The budget is
exact, and the groups do not affect each other.
-/

namespace GreaterWill

/-- A call of the coordinator. -/
inductive RetryCall where
  | shouldRetry (group : String) (errorClass : ErrorClass) (now : Nat)
  | reset (group : String)

/-- A call with its answer. -/
inductive RetryEvent where
  | decided (group : String) (errorClass : ErrorClass) (now : Nat) (decision : RetryDecision)
  | reset (group : String)

def RetryCall.group : RetryCall → String
  | shouldRetry group _ _ => group
  | reset group => group

def RetryEvent.group : RetryEvent → String
  | decided group _ _ _ => group
  | reset group => group

def RetryDecision.isRetry : RetryDecision → Bool
  | retry _ => true
  | _ => false

/-- The retries granted to a group since its last reset; the last event comes first. -/
def granted (group : String) : List RetryEvent → Nat
  | [] => 0
  | .reset other :: events => if other = group then 0 else granted group events
  | .decided other _ _ decision :: events =>
    if other = group ∧ decision.isRetry = true then granted group events + 1
    else granted group events

/-- A coordinator, and what it was asked so far. -/
structure RetryLog where
  coordinator : RetryCoordinator := {}
  events : List RetryEvent := []

namespace RetryLog

/-- Answer a call. -/
def answer (l : RetryLog) : RetryCall → RetryLog
  | .shouldRetry group errorClass now =>
    { coordinator := (l.coordinator.shouldRetry group errorClass now).2
      events := .decided group errorClass now
        (l.coordinator.shouldRetry group errorClass now).1 :: l.events }
  | .reset group =>
    { coordinator := l.coordinator.reset group, events := .reset group :: l.events }

def step (l : RetryLog) (call : RetryCall) : Option RetryLog := some (l.answer call)

/-- The group has not failed in the last 30 seconds. -/
def Spaced (l : RetryLog) : RetryCall → Prop
  | .shouldRetry group _ now => ∀ errorClass before decision,
    .decided group errorClass before decision ∈ l.events → 30 * 1000000000 ≤ now - before
  | .reset _ => True

/-- A failure that is not fatal is retried until the budget of its class is used up, after the
backoff of the retries before it. -/
def OnBudget (l : RetryLog) : RetryCall → Prop
  | .shouldRetry group errorClass now => errorClass.skipsPlan = false →
    (l.coordinator.shouldRetry group errorClass now).1 =
      if errorClass.maxRetries ≤ granted group l.events then .exhausted
      else .retry (errorClass.backoffForAttempt (granted group l.events))
  | .reset _ => True

/-- An overload of the API comes at the end of its curve. -/
def AtCurveEnd (l : RetryLog) : RetryCall → Prop
  | .shouldRetry group errorClass _ =>
    errorClass = .apiOverload → 3 ≤ granted group l.events
  | .reset _ => True

/-! ## What is counted -/

/-- The count of a group is the number of retries it was granted. -/
structure Counts (l : RetryLog) (group : String) (state : RetryState) : Prop where
  attempts : state.attempts = granted group l.events
  rapid : state.isRapidFailure = false
  lastFailure : ∀ before ∈ state.lastFailure, ∃ errorClass decision,
    .decided group errorClass before decision ∈ l.events

def CountedIn (l : RetryLog) (group : String) : Option RetryState → Prop
  | none => granted group l.events = 0
  | some state => l.Counts group state

def Inv (l : RetryLog) : Prop := ∀ group, l.CountedIn group (l.coordinator.states.lookup group)

variable {l l' : RetryLog} {group other : String} {errorClass : ErrorClass} {now : Nat}
  {call : RetryCall}

theorem inv_start : ({} : RetryLog).Inv := fun _ => rfl

/-- The state `should_retry` looks at, with the class of the failure. -/
def stateOf (l : RetryLog) (group : String) (errorClass : ErrorClass) : RetryState :=
  { (l.coordinator.states.lookup group).getD { errorClass } with errorClass }

theorem counts_stateOf (h : l.Inv) : l.Counts group (l.stateOf group errorClass) := by
  have hgroup := h group
  rw [stateOf]
  cases hlookup : l.coordinator.states.lookup group with
  | none =>
    rw [hlookup] at hgroup
    exact ⟨hgroup.symm, rfl, nofun⟩
  | some state =>
    rw [hlookup] at hgroup
    exact ⟨hgroup.attempts, hgroup.rapid, hgroup.lastFailure⟩

/-- Without a failure in the last 30 seconds none is rapid. -/
theorem rapid_recordFailure {state : RetryState} (h : l.Counts group state)
    (hspaced : l.Spaced (.shouldRetry group errorClass now)) :
    (state.recordFailure now).isRapidFailure = false := by
  rw [RetryState.recordFailure]
  dsimp only
  rw [h.rapid, Bool.false_or, Option.any_eq_false]
  intro before hbefore
  obtain ⟨c, decision, hmem⟩ := h.lastFailure before hbefore
  have hfar : 30 * 1000000000 ≤ now - before := hspaced c before decision hmem
  have hslow : decide (now - before < 30 * 1000000000) = false :=
    decide_eq_false (Nat.not_lt_of_le hfar)
  rw [hslow]
  simp

theorem shouldRetry_eq (h : errorClass.skipsPlan = false) :
    l.coordinator.shouldRetry group errorClass now =
      if (l.stateOf group errorClass).isExhausted then
        (.exhausted, { l.coordinator with
          states := l.coordinator.states.insert group (l.stateOf group errorClass) })
      else
        (.retry ((l.stateOf group errorClass).recordFailure now).nextBackoff,
          { states := l.coordinator.states.insert group
              ((l.stateOf group errorClass).recordFailure now)
            globalFailureCount := l.coordinator.globalFailureCount + 1 }) := by
  rw [RetryCoordinator.shouldRetry, h, if_neg Bool.false_ne_true]
  rfl

theorem isExhausted_stateOf (h : l.Inv) :
    (l.stateOf group errorClass).isExhausted = true ↔
      errorClass.maxRetries ≤ granted group l.events := by
  rw [RetryState.isExhausted, (counts_stateOf h).attempts, decide_eq_true_eq]
  rfl

/-- The answer: the budget is as documented, the delay is that of the next attempt. -/
theorem decision_eq (h : l.Inv) (hspaced : l.Spaced (.shouldRetry group errorClass now))
    (hskip : errorClass.skipsPlan = false) :
    (l.coordinator.shouldRetry group errorClass now).1 =
      if errorClass.maxRetries ≤ granted group l.events then .exhausted
      else .retry (errorClass.backoffForAttempt (granted group l.events + 1)) := by
  have hcounts : l.Counts group (l.stateOf group errorClass) := counts_stateOf h
  rw [shouldRetry_eq hskip]
  by_cases hmax : errorClass.maxRetries ≤ granted group l.events
  · rw [if_pos ((isExhausted_stateOf h).mpr hmax), if_pos hmax]
  · rw [if_neg (mt (isExhausted_stateOf h).mp hmax), if_neg hmax, RetryState.nextBackoff,
      rapid_recordFailure hcounts hspaced, if_neg Bool.false_ne_true, ← hcounts.attempts]
    rfl

/-- The curve is flat but for an overload of the API, and flat there from its fourth attempt. -/
theorem backoff_succ_iff {k : Nat} (h : k < errorClass.maxRetries) :
    errorClass.backoffForAttempt (k + 1) = errorClass.backoffForAttempt k ↔
      (errorClass = .apiOverload → 3 ≤ k) := by
  cases errorClass with
  | apiOverload =>
    have hk : k < 4 := h
    obtain rfl | rfl | rfl | rfl : k = 0 ∨ k = 1 ∨ k = 2 ∨ k = 3 := by omega
    all_goals decide
  | crash | stuck | timeout | authError | networkError | permissionBlocked | requestTooLarge
  | bootstrapError => exact iff_of_true rfl nofun

theorem onBudget_iff (h : l.Inv) (hspaced : l.Spaced call) :
    l.OnBudget call ↔ l.AtCurveEnd call := by
  cases call with
  | reset group => exact Iff.rfl
  | shouldRetry group errorClass now =>
    rw [OnBudget, AtCurveEnd]
    cases hskip : errorClass.skipsPlan with
    | true =>
      refine iff_of_true (fun hno => absurd hno (by simp)) ?_
      rintro rfl
      exact absurd hskip (by decide)
    | false =>
      rw [decision_eq h hspaced hskip]
      by_cases hmax : errorClass.maxRetries ≤ granted group l.events
      · rw [if_pos hmax, if_pos hmax]
        refine iff_of_true (fun _ => rfl) ?_
        rintro rfl
        have hfour : 4 ≤ granted group l.events := hmax
        omega
      · rw [if_neg hmax, if_neg hmax, ← backoff_succ_iff (Nat.lt_of_not_le hmax)]
        simp

/-! ## What a call leaves -/

theorem granted_of_ne {event : RetryEvent} {events : List RetryEvent} (h : event.group ≠ group) :
    granted group (event :: events) = granted group events := by
  cases event with
  | reset other => exact if_neg h
  | decided other errorClass now decision => exact if_neg fun hand => h hand.1

/-- A call does not touch the state of another group. -/
theorem lookup_answer_of_ne (h : call.group ≠ group) :
    (l.answer call).coordinator.states.lookup group = l.coordinator.states.lookup group := by
  cases call with
  | reset other => exact AList.lookup_erase_ne h.symm
  | shouldRetry other errorClass now =>
    rw [answer]
    dsimp only
    cases hskip : errorClass.skipsPlan with
    | true => rw [RetryCoordinator.shouldRetry, hskip, if_pos rfl]
    | false =>
      rw [shouldRetry_eq hskip]
      split
      · exact AList.lookup_insert_ne h.symm
      · exact AList.lookup_insert_ne h.symm

theorem events_answer (l : RetryLog) (call : RetryCall) :
    ∃ event, (l.answer call).events = event :: l.events ∧ event.group = call.group := by
  cases call with
  | shouldRetry other errorClass now => exact ⟨_, rfl, rfl⟩
  | reset other => exact ⟨_, rfl, rfl⟩

theorem Counts.later {state : RetryState} {event : RetryEvent} (h : l.Counts group state)
    (hevents : l'.events = event :: l.events)
    (hgranted : granted group l'.events = granted group l.events) : l'.Counts group state where
  attempts := h.attempts.trans hgranted.symm
  rapid := h.rapid
  lastFailure := by
    intro before hbefore
    obtain ⟨c, decision, hmem⟩ := h.lastFailure before hbefore
    exact ⟨c, decision, by rw [hevents]; exact List.mem_cons_of_mem _ hmem⟩

theorem CountedIn.later {state : Option RetryState} {event : RetryEvent}
    (h : l.CountedIn group state) (hevents : l'.events = event :: l.events)
    (hgranted : granted group l'.events = granted group l.events) : l'.CountedIn group state := by
  cases state with
  | none => exact hgranted.trans h
  | some state => exact Counts.later h hevents hgranted

/-- What the calls of one group leave of the counts of another. -/
theorem countedIn_of_ne (h : l.Inv) (hne : call.group ≠ group) :
    (l.answer call).CountedIn group
      ((l.answer call).coordinator.states.lookup group) := by
  obtain ⟨event, hevents, hgroup⟩ := events_answer l call
  have hgranted : granted group (l.answer call).events = granted group l.events := by
    rw [hevents]
    exact granted_of_ne (hgroup.trans_ne hne)
  rw [lookup_answer_of_ne hne]
  exact (h group).later hevents hgranted

/-- A retry is counted in the state and in the events. -/
theorem Counts.retried {after : Nat} (h : l.Counts group (l.stateOf group errorClass))
    (hspaced : l.Spaced (.shouldRetry group errorClass now))
    (hevents : l'.events = .decided group errorClass now (.retry after) :: l.events) :
    l'.Counts group ((l.stateOf group errorClass).recordFailure now) where
  attempts := by
    have hgranted : granted group l'.events = granted group l.events + 1 := by
      rw [hevents]
      exact if_pos ⟨rfl, rfl⟩
    rw [hgranted, ← h.attempts]
    rfl
  rapid := rapid_recordFailure h hspaced
  lastFailure := by
    intro before hbefore
    obtain rfl : now = before := Option.some.inj hbefore
    exact ⟨errorClass, .retry after, by rw [hevents]; exact List.mem_cons_self⟩

theorem granted_of_not_retry {decision : RetryDecision} {events : List RetryEvent}
    (h : decision.isRetry = false) :
    granted group (.decided group errorClass now decision :: events) = granted group events := by
  refine if_neg fun hand => ?_
  rw [h] at hand
  exact Bool.false_ne_true hand.2

theorem Inv.answer (h : l.Inv) (hspaced : l.Spaced call) : (l.answer call).Inv := by
  intro group
  by_cases hne : call.group ≠ group
  · exact countedIn_of_ne h hne
  obtain rfl : call.group = group := not_not.mp hne
  cases call with
  | reset group =>
    have hlookup : (l.coordinator.states.erase group).lookup group = none :=
      AList.lookup_erase group _
    simp only [RetryLog.answer, RetryCall.group, RetryCoordinator.reset, hlookup]
    exact if_pos rfl
  | shouldRetry group errorClass now =>
    have hcounts : l.Counts group (l.stateOf group errorClass) := counts_stateOf h
    simp only [RetryLog.answer, RetryCall.group]
    cases hskip : errorClass.skipsPlan with
    | true =>
      have hanswer : l.coordinator.shouldRetry group errorClass now = (.skipPlan, l.coordinator) := by
        rw [RetryCoordinator.shouldRetry, hskip, if_pos rfl]
      rw [hanswer]
      exact (h group).later rfl (granted_of_not_retry rfl)
    | false =>
      rw [shouldRetry_eq hskip]
      split
      · simp only [AList.lookup_insert]
        exact hcounts.later rfl (granted_of_not_retry rfl)
      · simp only [AList.lookup_insert]
        exact hcounts.retried hspaced rfl

/-! ## The groups -/

/-- The answer and the state it leaves come from the state of the group alone. -/
theorem shouldRetry_congr (errorClass : ErrorClass) (now : Nat)
    (h : l.coordinator.states.lookup group = l'.coordinator.states.lookup group) :
    (l.coordinator.shouldRetry group errorClass now).1 =
      (l'.coordinator.shouldRetry group errorClass now).1 ∧
    (l.coordinator.shouldRetry group errorClass now).2.states.lookup group =
      (l'.coordinator.shouldRetry group errorClass now).2.states.lookup group := by
  have hstate : l.stateOf group errorClass = l'.stateOf group errorClass := by
    rw [stateOf, stateOf, h]
  cases hskip : errorClass.skipsPlan with
  | true =>
    rw [RetryCoordinator.shouldRetry, RetryCoordinator.shouldRetry, hskip, if_pos rfl, if_pos rfl]
    exact ⟨rfl, h⟩
  | false =>
    rw [shouldRetry_eq hskip, shouldRetry_eq hskip, hstate]
    split
    · simp only [AList.lookup_insert, and_self]
    · simp only [AList.lookup_insert, and_self]

/-- The second log has what the first one has of a group, and nothing else. -/
structure AgreeOn (group : String) (l l' : RetryLog) : Prop where
  lookup : l.coordinator.states.lookup group = l'.coordinator.states.lookup group
  events : l.events.filter (·.group = group) = l'.events

theorem AgreeOn.answer (h : AgreeOn call.group l l') :
    AgreeOn call.group (l.answer call) (l'.answer call) := by
  cases call with
  | reset group =>
    refine ⟨?_, ?_⟩
    · simp [RetryLog.answer, RetryCall.group, RetryCoordinator.reset]
    · have hevents := h.events
      simp_all [RetryLog.answer, RetryCall.group, RetryEvent.group]
  | shouldRetry group errorClass now =>
    obtain ⟨hdecision, hlookup⟩ := shouldRetry_congr errorClass now h.lookup
    refine ⟨hlookup, ?_⟩
    have hevents := h.events
    simp only [RetryCall.group] at hdecision
    simp_all [RetryLog.answer, RetryCall.group, RetryEvent.group]

/-- A call of another group leaves the agreement. -/
theorem AgreeOn.of_ne (h : AgreeOn group l l') (hne : call.group ≠ group) :
    AgreeOn group (l.answer call) l' := by
  obtain ⟨event, hevents, hgroup⟩ := events_answer l call
  refine ⟨(lookup_answer_of_ne hne).trans h.lookup, ?_⟩
  rw [hevents, List.filter_cons_of_neg, h.events]
  simpa [hgroup] using hne

/-- What a group is told in a run is what it is told when no other group calls. -/
theorem agreeOn_foldl (h : AgreeOn group l l') (calls : List RetryCall) :
    AgreeOn group (calls.foldl RetryLog.answer l)
      ((calls.filter (·.group = group)).foldl RetryLog.answer l') := by
  induction calls generalizing l l' with
  | nil => exact h
  | cons call calls ih =>
    by_cases hgroup : call.group = group
    · subst hgroup
      rw [List.filter_cons_of_pos (by simp)]
      exact ih h.answer
    · rw [List.filter_cons_of_neg (by simpa using hgroup)]
      exact ih (h.of_ne hgroup)

/-- Each group is told what it would be told alone. -/
def Isolated (calls : List RetryCall) : Prop :=
  ∀ group, (calls.foldl RetryLog.answer {}).events.filter (·.group = group) =
    ((calls.filter (·.group = group)).foldl RetryLog.answer {}).events

theorem isolated (calls : List RetryCall) : Isolated calls := fun _ =>
  (agreeOn_foldl ⟨rfl, rfl⟩ calls).events

/-- The budget is exact and the groups are apart in every run; the delays follow the curve in the
runs where the API is overloaded at the end of it only. -/
theorem retries_iff {calls : List RetryCall} (hspaced : Along step Spaced {} calls) :
    Along step OnBudget {} calls ∧ Isolated calls ↔ Along step AtCurveEnd {} calls := by
  have hrun : exec step {} calls = some (calls.foldl RetryLog.answer {}) :=
    exec_total RetryLog.answer {} calls
  have hiff : Along step (fun l call => l.OnBudget call ↔ l.AtCurveEnd call) {} calls := by
    refine Along.of_invariant (I := Inv) ?_ hrun hspaced inv_start
    rintro l call l' hstep hspaced hinv
    obtain rfl : l.answer call = l' := Option.some.inj hstep
    exact ⟨hinv.answer hspaced, onBudget_iff hinv hspaced⟩
  rw [Along.congr_along hiff]
  exact and_iff_left (isolated calls)

/-- A crash, and a minute later an overload of the API. -/
theorem retries_iff_crash_overload :
    Along step Spaced {} [.shouldRetry "work" .crash 0,
      .shouldRetry "work" .apiOverload 60000000000] ∧
    (Along step OnBudget {} [.shouldRetry "work" .crash 0,
        .shouldRetry "work" .apiOverload 60000000000] ∧
      Isolated [.shouldRetry "work" .crash 0, .shouldRetry "work" .apiOverload 60000000000] ↔
    Along step AtCurveEnd {} [.shouldRetry "work" .crash 0,
      .shouldRetry "work" .apiOverload 60000000000]) := by
  have hspaced : Along step Spaced {} [.shouldRetry "work" .crash 0,
      .shouldRetry "work" .apiOverload 60000000000] := by
    refine (Along.cons rfl).mpr ⟨fun _ _ _ hmem => absurd hmem List.not_mem_nil, ?_⟩
    refine (Along.cons rfl).mpr ⟨fun _ _ _ hmem => ?_, True.intro⟩
    cases List.mem_singleton.mp hmem
    decide
  exact ⟨hspaced, retries_iff hspaced⟩

/-- The first retry after an overload of the API waits for half an hour. -/
theorem overload_waits_twice :
    Along step Spaced {} [.shouldRetry "work" .apiOverload 0] ∧
    (({} : RetryCoordinator).shouldRetry "work" .apiOverload 0).1 = .retry (30 * 60) ∧
    ErrorClass.apiOverload.backoffForAttempt 0 = 15 * 60 ∧
    ¬ Along step OnBudget {} [.shouldRetry "work" .apiOverload 0] := by
  refine ⟨⟨fun _ _ _ hmem => absurd hmem List.not_mem_nil, True.intro⟩, rfl, rfl, fun h => ?_⟩
  exact absurd (h.head rfl) (by decide)

end RetryLog

end GreaterWill
