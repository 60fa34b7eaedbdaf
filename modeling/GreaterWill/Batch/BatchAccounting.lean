import GreaterWill.Batch.BatchRunner

/-!
# Every plan of a batch is accounted for once

The index, the results and the plans of a batch state stay aligned (`Aligned`), in the runner and in
the state file, and the queue of the runner has the plans that have no result yet. So they stay over
crashes: what a crash loses is in none of the three.
-/

namespace GreaterWill

/-- Count a result toward the non-transient failures since the last plan that passed. -/
def countFailure (failures : Nat) (result : PlanResult) : Nat :=
  match result.outcome with
  | .passed => 0
  | .failed => if result.transient then failures else failures + 1
  | .skipped => failures

/-- The non-transient failures since the last plan that passed. -/
def failuresSincePassed (results : List PlanResult) : Nat := results.foldl countFailure 0

/-- The results trip a breaker with the given bound. -/
def TrippedBy (maxFailures : UInt32) (results : List PlanResult) : Prop :=
  0 < maxFailures ∧ failuresSincePassed results = maxFailures.toNat

theorem failuresSincePassed_append (results : List PlanResult) (result : PlanResult) :
    failuresSincePassed (results ++ [result]) =
      countFailure (failuresSincePassed results) result := by
  rw [failuresSincePassed, List.foldl_append]
  rfl

namespace BatchState

/-- Index, results, plans and breaker of a batch state are in line. -/
structure Aligned (s : BatchState) : Prop where
  index : s.currentIndex = s.results.length
  inPlans : s.currentIndex ≤ s.plans.length
  plans : s.results.map (·.plan) = s.plans.take s.currentIndex
  /-- The counter does not wrap around as long as it matters. -/
  counter : 0 < s.circuitBreaker.maxFailures →
    s.circuitBreaker.consecutiveFailures.toNat = failuresSincePassed s.results ∧
      failuresSincePassed s.results ≤ s.circuitBreaker.maxFailures.toNat
  tripped : s.circuitBreaker.tripped = true ↔ TrippedBy s.circuitBreaker.maxFailures s.results
  skipped : ∀ i result, s.results[i]? = some result →
    (result.outcome = .skipped ↔ TrippedBy s.circuitBreaker.maxFailures (s.results.take i))

/-- The plans without a result. -/
def remaining (s : BatchState) : List String := s.plans.drop s.currentIndex

/-- What a batch is started with. -/
def batch (s : BatchState) : List String × UInt32 := (s.plans, s.circuitBreaker.maxFailures)

/-- The batch is accounted for: a result for every plan, and none skipped but after the trip. -/
structure Accounted (s : BatchState) : Prop where
  index : s.currentIndex = s.plans.length
  results : s.results.length = s.plans.length
  plans : ∀ i : Nat, (s.results[i]?).map PlanResult.plan = s.plans[i]?
  counted : ∀ duration, (s.buildSummary duration).passed + (s.buildSummary duration).failed +
    (s.buildSummary duration).skipped = s.plans.length
  skipped : ∀ i result, s.results[i]? = some result →
    (result.outcome = .skipped ↔ TrippedBy s.circuitBreaker.maxFailures (s.results.take i))
  tripped : s.circuitBreaker.tripped = true ↔ TrippedBy s.circuitBreaker.maxFailures s.results

variable {s : BatchState} {result : PlanResult} {plan : String} {queue : List String}

theorem aligned_new (batchId : String) (plans : List String) (maxFailures : UInt32) (now : Int) :
    ((BatchState.new batchId plans now).withMaxFailures maxFailures).Aligned where
  index := rfl
  inPlans := Nat.zero_le _
  plans := rfl
  counter _ := ⟨rfl, Nat.zero_le _⟩
  tripped := by
    constructor
    · nofun
    · rintro ⟨hpos, hzero⟩
      have hlt : 0 < maxFailures.toNat := UInt32.lt_iff_toNat_lt.mp hpos
      exact absurd hzero (Nat.ne_of_lt hlt)
  skipped i result h := by cases h

theorem Aligned.updated (h : s.Aligned) (now : Int) : { s with updatedAt := now }.Aligned :=
  { h with }

theorem breakerAfter_maxFailures :
    (s.breakerAfter result).maxFailures = s.circuitBreaker.maxFailures := by
  rw [breakerAfter]
  split
  · rfl
  · split
    · rfl
    · rfl
  · rfl

theorem recordResult_of_remaining (hqueue : plan :: queue = s.remaining) :
    s.recordResult result =
      { s with
        circuitBreaker := s.breakerAfter result
        results := s.results ++ [result]
        currentIndex := s.currentIndex + 1 } := by
  have hlt : s.currentIndex < s.plans.length := by
    rw [← Nat.not_le]
    intro hle
    rw [remaining, List.drop_eq_nil_of_le hle] at hqueue
    cases hqueue
  rw [recordResult]
  exact if_neg (Nat.not_le.mpr hlt)

theorem batch_recordResult : (s.recordResult result).batch = s.batch := by
  have hmax : (s.breakerAfter result).maxFailures = s.circuitBreaker.maxFailures :=
    breakerAfter_maxFailures
  rw [recordResult]
  dsimp only
  split
  · rw [batch, batch, hmax]
  · rw [batch, batch, hmax]

/-- What a result does to an aligned breaker that it was recorded by the rules of. -/
theorem Aligned.breakerAfter (h : s.Aligned)
    (hskip : result.outcome = .skipped ↔ s.isCircuitBroken = true) :
    (0 < s.circuitBreaker.maxFailures →
        (s.breakerAfter result).consecutiveFailures.toNat =
            failuresSincePassed (s.results ++ [result]) ∧
          failuresSincePassed (s.results ++ [result]) ≤ s.circuitBreaker.maxFailures.toNat) ∧
      ((s.breakerAfter result).tripped = true ↔
        TrippedBy s.circuitBreaker.maxFailures (s.results ++ [result])) := by
  have hcounter := h.counter
  have htripped := h.tripped
  rw [isCircuitBroken] at hskip
  rw [TrippedBy, failuresSincePassed_append, BatchState.breakerAfter, countFailure]
  rw [TrippedBy] at htripped
  cases houtcome : result.outcome with
  | passed =>
    dsimp only
    refine ⟨fun _ => ⟨rfl, Nat.zero_le _⟩, ?_⟩
    constructor
    · nofun
    · rintro ⟨hpos, hzero⟩
      exact absurd hzero (Nat.ne_of_lt (UInt32.lt_iff_toNat_lt.mp hpos))
  | skipped => exact ⟨hcounter, htripped⟩
  | failed =>
    dsimp only
    split
    · exact ⟨hcounter, htripped⟩
    · -- the breaker was not tripped, so that the counter is below the bound
      have hnot : s.circuitBreaker.tripped = false := by
        rw [← Bool.not_eq_true]
        intro hbroken
        rw [houtcome] at hskip
        cases hskip.mpr hbroken
      have hbelow : 0 < s.circuitBreaker.maxFailures →
          (s.circuitBreaker.consecutiveFailures + 1).toNat = failuresSincePassed s.results + 1 ∧
            failuresSincePassed s.results + 1 ≤ s.circuitBreaker.maxFailures.toNat := by
        intro hpos
        obtain ⟨hcount, hle⟩ := hcounter hpos
        have hne : failuresSincePassed s.results ≠ s.circuitBreaker.maxFailures.toNat := by
          intro heq
          rw [htripped.mpr ⟨hpos, heq⟩] at hnot
          cases hnot
        have hsize := s.circuitBreaker.maxFailures.toNat_lt
        refine ⟨?_, by omega⟩
        rw [UInt32.toNat_add, hcount]
        exact Nat.mod_eq_of_lt (by rw [UInt32.toNat_one]; omega)
      refine ⟨hbelow, ?_⟩
      rw [hnot, Bool.or_false, decide_eq_true_eq]
      refine and_congr_right fun hpos => ?_
      obtain ⟨hcount, hle⟩ := hbelow hpos
      rw [UInt32.le_iff_toNat_le, hcount]
      omega

/-- A result for the next plan, skipped if and only if the breaker is tripped, keeps the state
aligned. -/
theorem Aligned.recordResult (h : s.Aligned) (hqueue : result.plan :: queue = s.remaining)
    (hskip : result.outcome = .skipped ↔ s.isCircuitBroken = true) :
    (s.recordResult result).Aligned ∧ queue = (s.recordResult result).remaining := by
  have hindex := h.index
  have hlt : s.currentIndex < s.plans.length := by
    rw [← Nat.not_le]
    intro hle
    rw [remaining, List.drop_eq_nil_of_le hle] at hqueue
    cases hqueue
  rw [remaining, List.drop_eq_getElem_cons hlt, List.cons.injEq] at hqueue
  obtain ⟨hplan, hrest⟩ := hqueue
  obtain ⟨hcounter, htripped⟩ := h.breakerAfter hskip
  have hnext : result.plan :: queue = s.remaining := by
    rw [remaining, List.drop_eq_getElem_cons hlt, hplan, hrest]
  rw [recordResult_of_remaining hnext]
  refine ⟨?_, hrest⟩
  constructor
  · dsimp only
    rw [hindex, List.length_append]
    rfl
  · exact hlt
  · dsimp only
    rw [List.map_append, h.plans, List.map_singleton, hplan]
    exact (List.take_succ_eq_append_getElem hlt).symm
  · dsimp only
    rw [breakerAfter_maxFailures]
    exact hcounter
  · dsimp only
    rw [breakerAfter_maxFailures]
    exact htripped
  · dsimp only
    rw [breakerAfter_maxFailures]
    intro i result' hresult'
    rcases Nat.lt_or_ge i s.results.length with hbefore | hafter
    · rw [List.getElem?_append_left hbefore] at hresult'
      rw [List.take_append_of_le_length (Nat.le_of_lt hbefore)]
      exact h.skipped i result' hresult'
    · rw [List.getElem?_append_right hafter] at hresult'
      obtain ⟨hzero, rfl⟩ : i - s.results.length = 0 ∧ result = result' := by
        rw [List.getElem?_singleton] at hresult'
        split at hresult'
        · next hzero => exact ⟨hzero, Option.some.inj hresult'⟩
        · cases hresult'
      have hi : i = s.results.length := by omega
      rw [hi, List.take_left', hskip]
      · exact h.tripped
      · rfl

theorem counted (results : List PlanResult) :
    (results.filter fun r => r.outcome = .passed).length +
      (results.filter fun r => r.outcome = .failed).length +
      (results.filter fun r => r.outcome = .skipped).length = results.length := by
  induction results with
  | nil => rfl
  | cons result results ih =>
    rw [List.length_cons, ← ih]
    cases houtcome : result.outcome with
    | passed => simp [houtcome]; omega
    | failed => simp [houtcome]; omega
    | skipped => simp [houtcome]; omega

/-- An aligned state without remaining plans is accounted for. -/
theorem Aligned.accounted (h : s.Aligned) (hnone : s.remaining = []) : s.Accounted := by
  have hindex : s.currentIndex = s.plans.length :=
    Nat.le_antisymm h.inPlans (List.drop_eq_nil_iff.mp hnone)
  have hresults : s.results.length = s.plans.length := by rw [← h.index, hindex]
  refine ⟨hindex, hresults, ?_, ?_, h.skipped, h.tripped⟩
  · intro i
    rw [← List.getElem?_map, h.plans, hindex, List.take_length]
  · intro duration
    rw [← hresults]
    exact counted s.results

end BatchState

open BatchState

namespace BatchRunner

/-- What the queue has at each point of `run`. -/
def QueueAt (point : RunPoint) (queue : List String) (s : BatchState) : Prop :=
  match point with
  | .start | .next | .recorded => queue = s.remaining
  | .popped plan => plan :: queue = s.remaining ∧ s.isCircuitBroken = false
  | .firstSkipped | .skipping => queue = s.remaining ∧ s.isCircuitBroken = true
  | .skipped | .done => s.remaining = []

structure InLine (r : BatchRunner) : Prop where
  aligned : r.batchState.Aligned
  queue : QueueAt r.point r.queue r.batchState

variable {r r' : BatchRunner} {input : BatchInput} {file file' : Option BatchState}

theorem executePlan_plan (plan : String) : (r.executePlan input plan).plan = plan := by
  rw [executePlan]
  split
  · rfl
  · split
    · split
      · rfl
      · rfl
    · rfl

theorem executePlan_not_skipped (plan : String) :
    (r.executePlan input plan).outcome ≠ .skipped := by
  rw [executePlan]
  split
  · nofun
  · split
    · split
      · nofun
      · nofun
    · nofun

theorem save_spec {point : RunPoint} (h : r.save input file point = (some r', file')) :
    ∃ now, r' = { r with batchState := { r.batchState with updatedAt := now }, point } ∧
      file' = some { r.batchState with updatedAt := now } := by
  rw [save] at h
  split at h
  · cases h
    exact ⟨_, rfl, rfl⟩
  · cases h

/-- A save writes the state of the runner, or leaves the file as it is. -/
theorem save_file (point : RunPoint) : (r.save input file point).2 = file ∨
    ∃ now, (r.save input file point).2 = some { r.batchState with updatedAt := now } := by
  rw [save]
  split
  · exact .inr ⟨_, rfl⟩
  · exact .inl rfl

/-- The file after a step. -/
theorem step_file : (r.step input file).2 = file ∨
    ∃ now, (r.step input file).2 = some { r.batchState with updatedAt := now } := by
  rw [step]
  split
  · exact save_file .next
  · split
    · exact .inl rfl
    · dsimp only
      split
      · exact .inl rfl
      · split
        · exact .inl rfl
        · exact .inl rfl
  · split
    · exact .inl rfl
    · exact .inl rfl
  · exact save_file .next
  · exact save_file .skipping
  · split
    · exact .inl rfl
    · exact .inl rfl
  · exact save_file .done
  · exact .inl rfl

/-- The runner after a step: at another point with the same state, or with one more result. -/
theorem step_batch (h : (r.step input file).1 = some r') :
    r'.batchState.batch = r.batchState.batch := by
  have hsave : ∀ point, (r.save input file point).1 = some r' →
      r'.batchState.batch = r.batchState.batch := by
    intro point hsaved
    obtain ⟨now, rfl, -⟩ := save_spec (Prod.ext hsaved rfl)
    rfl
  rw [step] at h
  split at h
  · exact hsave _ h
  · split at h
    · cases h
      rfl
    · dsimp only at h
      split at h
      · cases h
        exact batch_recordResult
      · split at h
        · cases h
          exact batch_recordResult
        · cases h
          rfl
  · split at h
    · cases h
    · cases h
      exact batch_recordResult
  · exact hsave _ h
  · exact hsave _ h
  · split at h
    · cases h
      rfl
    · cases h
      exact batch_recordResult
  · exact hsave _ h
  · cases h
    rfl

theorem InLine.save {point : RunPoint} (hr : r.InLine)
    (hqueue : QueueAt point r.queue r.batchState)
    (h : (r.save input file point).1 = some r') : r'.InLine := by
  obtain ⟨now, rfl, -⟩ := save_spec (Prod.ext h rfl)
  refine ⟨hr.aligned.updated now, ?_⟩
  cases point with
  | _ => exact hqueue

/-- A skip result for the next plan of a tripped batch. -/
theorem inLine_skipped {s : BatchState} {plan : String} {queue : List String} {now : Int}
    {planTimeout : Nat} {point : RunPoint} (hpoint : point = .firstSkipped ∨ point = .skipping)
    (hs : s.Aligned) (hqueue : plan :: queue = s.remaining) (hbroken : s.isCircuitBroken = true) :
    (BatchRunner.record { queue, batchState := s, planTimeout, point := .skipping }
      (skipResult plan now) point).InLine := by
  have hskip : (skipResult plan now).outcome = .skipped ↔ s.isCircuitBroken = true :=
    ⟨fun _ => hbroken, fun _ => rfl⟩
  obtain ⟨haligned, hrest⟩ := Aligned.recordResult hs hqueue hskip
  have hstill : (s.recordResult (skipResult plan now)).isCircuitBroken = true := by
    rw [recordResult_of_remaining hqueue]
    exact hbroken
  refine ⟨haligned, ?_⟩
  rcases hpoint with rfl | rfl
  · exact ⟨hrest, hstill⟩
  · exact ⟨hrest, hstill⟩

/-- The result of a plan that was not skipped. -/
theorem inLine_recorded {s : BatchState} {queue : List String} {planTimeout : Nat}
    {result : PlanResult} {point : RunPoint} (hs : s.Aligned)
    (hqueue : result.plan :: queue = s.remaining) (hbroken : s.isCircuitBroken = false)
    (hran : result.outcome ≠ .skipped) :
    (BatchRunner.record { queue, batchState := s, planTimeout, point } result
      .recorded).InLine := by
  have hskip : result.outcome = .skipped ↔ s.isCircuitBroken = true := by
    rw [hbroken]
    exact ⟨fun hskipped => absurd hskipped hran, nofun⟩
  obtain ⟨haligned, hrest⟩ := hs.recordResult hqueue hskip
  exact ⟨haligned, hrest⟩

/-- A step of `run` keeps the runner in line. -/
theorem InLine.step (hr : r.InLine) (h : (r.step input file).1 = some r') : r'.InLine := by
  obtain ⟨queue, s, planTimeout, point⟩ := r
  have haligned : s.Aligned := hr.aligned
  have hqueue := hr.queue
  cases point with
  | start => exact hr.save (show QueueAt .next queue s from hqueue) h
  | next =>
    cases queue with
    | nil =>
      cases h
      exact ⟨haligned, hqueue.symm⟩
    | cons plan queue =>
      rw [BatchRunner.step] at h
      dsimp only at h
      split at h
      · next hbroken =>
        cases h
        exact inLine_skipped (.inl rfl) haligned hqueue hbroken
      · next hbroken =>
        rw [Bool.not_eq_true] at hbroken
        split at h
        · cases h
          exact inLine_recorded haligned hqueue hbroken nofun
        · cases h
          exact ⟨haligned, hqueue, hbroken⟩
  | popped plan =>
    rw [BatchRunner.step] at h
    dsimp only at h
    split at h
    · cases h
    · cases h
      apply inLine_recorded haligned _ hqueue.2 (executePlan_not_skipped plan)
      rw [executePlan_plan]
      exact hqueue.1
  | recorded => exact hr.save (show QueueAt .next queue s from hqueue) h
  | firstSkipped => exact hr.save (show QueueAt .skipping queue s from hqueue) h
  | skipping =>
    cases queue with
    | nil =>
      cases h
      exact ⟨haligned, hqueue.1.symm⟩
    | cons plan queue =>
      cases h
      exact inLine_skipped (.inr rfl) haligned hqueue.1 hqueue.2
  | skipped => exact hr.save (show QueueAt .done queue s from hqueue) h
  | done =>
    cases h
    exact hr

end BatchRunner

namespace BatchSystem

/-- The runner and the state file are in line, and hold batches that were started. -/
structure InLine (started : List (List String × UInt32)) (b : BatchSystem) : Prop where
  file : ∀ s, b.file = some s → s.Aligned ∧ s.batch ∈ started
  runner : ∀ r, b.runner = some r → r.InLine ∧ r.batchState.batch ∈ started

/-- The batch a new runner is for. -/
def started : BatchEvent → List (List String × UInt32)
  | .new _ plans maxFailures _ _ => [(plans, maxFailures)]
  | _ => []

variable {b b' : BatchSystem} {bs : List (List String × UInt32)}

theorem InLine.next (hb : b.InLine bs) {event : BatchEvent} (h : b.next event = some b') :
    b'.InLine (bs ++ started event) := by
  have hkept : ∀ s, b.file = some s → s.Aligned ∧ s.batch ∈ bs ++ started event :=
    fun s hs => ⟨(hb.file s hs).1, List.mem_append_left _ (hb.file s hs).2⟩
  cases event with
  | new batchId plans maxFailures planTimeout now =>
    rw [BatchSystem.next] at h
    split at h
    · cases h
    · cases h
      refine ⟨hkept, ?_⟩
      rintro r hr
      obtain rfl := Option.some.inj hr
      refine ⟨⟨aligned_new batchId plans maxFailures now, rfl⟩, ?_⟩
      exact List.mem_append_right _ (List.mem_singleton_self _)
  | resume planTimeout =>
    rw [BatchSystem.next] at h
    split at h
    · next s _ hfile =>
      cases h
      refine ⟨hkept, ?_⟩
      rintro r hr
      obtain rfl := Option.some.inj hr
      exact ⟨⟨(hkept s hfile).1, rfl⟩, (hkept s hfile).2⟩
    · cases h
  | step input =>
    rw [BatchSystem.next] at h
    split at h
    · cases h
    · next r hr =>
      cases h
      obtain ⟨hline, hstarted⟩ := hb.runner r hr
      dsimp only [started] at hkept ⊢
      rw [List.append_nil] at hkept ⊢
      refine ⟨?_, ?_⟩
      · intro s hs
        have hwritten : (r.step input b.file).2 = b.file ∨
            ∃ now, (r.step input b.file).2 = some { r.batchState with updatedAt := now } :=
          BatchRunner.step_file
        rcases hwritten with hsame | ⟨now, hsaved⟩
        · exact hkept s (hsame.symm.trans hs)
        · obtain rfl := Option.some.inj (hsaved.symm.trans hs)
          exact ⟨hline.aligned.updated now, hstarted⟩
      · intro r' hr'
        refine ⟨hline.step hr', ?_⟩
        rw [BatchRunner.step_batch hr']
        exact hstarted
  | crash =>
    rw [BatchSystem.next] at h
    split at h
    · cases h
    · cases h
      exact ⟨hkept, nofun⟩

end BatchSystem

open BatchSystem

/-- Whenever batches, crashes and resumed batches have led to a `run` that returned `Ok`, its batch
is one that was started, and is accounted for. -/
theorem batch_accounted {events : List BatchEvent} {b : BatchSystem} {r : BatchRunner}
    (hrun : exec BatchSystem.next .empty events = some b) (hr : b.runner = some r)
    (hdone : r.point = .done) :
    r.batchState.Accounted ∧
      r.batchState.batch ∈ yields BatchSystem.next (fun _ => started) .empty events := by
  have hline : b.InLine ([] ++ yields BatchSystem.next (fun _ => started) .empty events) := by
    apply exec_invariant_yields (I := InLine) _ hrun Along.trivial
    · exact ⟨nofun, nofun⟩
    · exact fun bs b event b' hnext _ hb => hb.next hnext
  obtain ⟨hr, hstarted⟩ := hline.runner r hr
  have hqueue := hr.queue
  rw [hdone] at hqueue
  exact ⟨hr.aligned.accounted hqueue, hstarted⟩

/-! Two plans; the process crashes after the first one is executed and before that is saved. -/

private def okInput : BatchInput where
  now := 0
  saved := true
  diskSpaceError := none
  cleanedUp := true
  planExists := true
  executed := .ok []
  duration := 0
  durationText := "0"

private def crashedBatch : List BatchEvent :=
  [.new "batch-1" ["plans/a.md", "plans/b.md"] 3 0 0] ++
    List.replicate 3 (.step okInput) ++ [.crash, .resume 0] ++ List.replicate 8 (.step okInput)

private theorem crashedBatch_done :
    ((exec BatchSystem.next .empty crashedBatch).bind (·.runner)).any (·.point = .done) = true := by
  decide

/-- The resumed batch has run both plans. -/
theorem crashed_batch_accounted : ∃ r : BatchRunner, r.batchState.Accounted ∧
    r.batchState.batch ∈ yields BatchSystem.next (fun _ => started) .empty crashedBatch := by
  obtain ⟨r, hrunner, hdone⟩ := exists_of_any crashedBatch_done
  obtain ⟨b, hrun, hr⟩ := Option.bind_eq_some_iff.mp hrunner
  exact ⟨r, batch_accounted hrun hr hdone⟩

end GreaterWill
