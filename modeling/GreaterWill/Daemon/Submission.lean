import GreaterWill.Daemon.DaemonSpec

/-!
# Submitting a run

`SubmitRun` looks at the repo lock and the cap in one lock scope and registers the run in another,
with the pre-flight checks in between. A request on its way finds its repo free and its queue empty
as long as no other step gives the lock of the repo away or queues a run for it (`InTurn`); it does
not look again itself.
-/

namespace GreaterWill

open RunRegistry

/-- The response to a `SubmitRun`. -/
inductive Response where
  | runSubmitted (runId : String)
  | runQueued (runId : String) (position : Nat)
  | error (message : String)
  deriving DecidableEq

def Response.accepts : Response → Bool
  | runSubmitted _ | runQueued .. => true
  | error _ => false

/-- The repo is taken or the cap is reached: the request is to be queued. -/
def Busy (c : DaemonConfig) (r : RunRegistry) (request : PendingRun) : Prop :=
  r.hasRepoLock c.host request.repoDir = true ∨
    (c.maxConcurrentRuns > 0 ∧ r.countRunning ≥ c.maxConcurrentRuns)

instance (c : DaemonConfig) (r : RunRegistry) (request : PendingRun) :
    Decidable (Busy c r request) :=
  inferInstanceAs (Decidable (_ ∨ _))

/-- The response that the action gives to a request. -/
def Action.response (c : DaemonConfig) (r : RunRegistry) : Action → Option Response
  | .submitRun request =>
    if Busy c r request then
      match r.enqueueRunWithoutSnapshot c.host request with
      | .ok (position, _, _) => some (.runQueued request.runId position)
      | .error e => some (.error e)
    else none
  | .refuseRun _ _ _ _ .request => some (.error "pre-flight checks failed")
  | .register planPath repoDir sessionName configDir .request runId now io metaIo =>
    match (r.registerRun c.host planPath repoDir sessionName configDir none runId now io metaIo).1
    with
    | .ok _ => none
    | .error e => some (.error e)
  | .spawnFails _ .request failure _ => some (.error failure.error)
  | .sendFails _ .request error _ => some (.error error)
  | .started runId .request now flush =>
    match r.stageStatusLocked c.host runId .running (some "starting") none now, flush with
    | .ok _, .ok _ => some (.runSubmitted runId)
    | .ok _, .error e => some (.error e)
    | .error e, _ => some (.error e.display)
  | _ => none

/-- The repo whose lock the action gives to a run. -/
def Action.lockedRepo (c : DaemonConfig) (r : RunRegistry) : Action → Option String
  | .register _ repoDir _ _ _ _ _ io metaIo =>
    if r.Grants c.host repoDir io metaIo then some (repoHash c.host repoDir) else none
  | .promote pending _ _ io metaIo =>
    (r.get pending.runId).bind fun e =>
      if e.status = .queued ∧ r.Grants c.host e.repoDir io metaIo then
        some (repoHash c.host e.repoDir)
      else none
  | _ => none

/-- The repo for which a run is queued. -/
def Action.queuedRepo (c : DaemonConfig) (r : RunRegistry) : Action → Option String
  | .submitRun request =>
    if Busy c r request then some (repoHash c.host request.repoDir) else none
  | _ => none

/-- The repo that a request on its way is for. -/
def Task.requestedRepo (host : Host) : Task → Option String
  | .spawnRun _ repoDir _ _ .request => some (repoHash host repoDir)
  | _ => none

/-- The tasks that are left when the actor of the action is taken away. -/
def Daemon.others (c : DaemonConfig) (d : Daemon) (a : Action) : List Task :=
  (a.scope c d.registry).actor.elim d.tasks d.tasks.erase

/-- A valid request, and an environment that works for it: the queue has room, the pre-flight checks
succeed, files can be written and the session comes up. -/
def serviceable (c : DaemonConfig) (d : Daemon) : Action → Bool
  | .submitRun request =>
    !decide (Busy c d.registry request) || decide (d.registry.totalPendingCount < MAX_QUEUE_SIZE)
  | .refuseRun _ _ _ _ caller | .spawnFails _ caller _ _ | .sendFails _ caller _ _ =>
    caller != .request
  | .register _ _ _ _ caller _ _ io metaIo =>
    caller != .request || (io == .acquired && metaIo.isOk)
  | .started _ caller _ flush => caller != .request || flush.isOk
  | _ => true

/-- A request that goes ahead is the last of its repo; one that is queued has a plan file of another
name than the runs of the repo that have not ended; a run is not stopped before it is started. -/
def timely (c : DaemonConfig) (d : Daemon) : Action → Bool
  | .submitRun request =>
    if Busy c d.registry request then (d.registry.findDuplicate c.host request).isNone
    else (d.registry.queue (repoHash c.host request.repoDir)).isEmpty
  | .started runId caller _ _ =>
    caller != .request || (d.registry.get runId).any (!·.status.isTerminal)
  | _ => true

/-- Nobody gets in the way of a request: none is on its way to a repo that the action locks or
queues a run for. -/
def InTurn (c : DaemonConfig) (d : Daemon) (a : Action) : Prop :=
  (∀ hash ∈ (a.lockedRepo c d.registry).toList ++ (a.queuedRepo c d.registry).toList,
    ∀ t ∈ d.others c a, t.requestedRepo c.host ≠ some hash) ∧ timely c d a = true

instance (c : DaemonConfig) (d : Daemon) (a : Action) : Decidable (InTurn c d a) :=
  inferInstanceAs (Decidable ((∀ hash ∈ _, ∀ t ∈ _, _) ∧ _))

/-- The response of the action, if there is one, accepts the request, and a run that is started
directly finds nothing queued for its repo. -/
def Served (c : DaemonConfig) (d : Daemon) (a : Action) : Prop :=
  (∀ response ∈ a.response c d.registry, response.accepts = true) ∧
    ∀ planPath repoDir sessionName configDir runId now io metaIo,
      a = .register planPath repoDir sessionName configDir .request runId now io metaIo →
        d.registry.queue (repoHash c.host repoDir) = []

/-- The repo of every request on its way is free, and no run is queued for it. -/
def Daemon.Clear (host : Host) (d : Daemon) : Prop :=
  ∀ t ∈ d.tasks, ∀ hash, t.requestedRepo host = some hash →
    hash ∉ d.registry.repoLocks ∧ d.registry.queue hash = []

section
variable {c : DaemonConfig} {d d' : Daemon} {a : Action} {host : Host} {r r' : RunRegistry}
  {op : Op} {ops : List Op} {hash : String} {t : Task}

/-! ## A step on a repo that a request waits for -/

/-- The repo stays free, and nothing is queued for it. -/
def RunRegistry.Vacant (hash : String) (r : RunRegistry) : Prop :=
  hash ∉ r.repoLocks ∧ r.queue hash = []

theorem vacant_of_opStep (hlocked : op.locks = false) (hne : ∀ pending, op ≠ .enqueueRun pending)
    (h : opStep host r op = some r') (hvacant : r.Vacant hash) : r'.Vacant hash := by
  have hlocks : r'.repoLocks ⊆ r.repoLocks :=
    opStep_repoLocks_subset h (Op.lockedIds_of_locks_eq_false hlocked)
  have hqueue : (r'.queue hash).Sublist [] := hvacant.2 ▸ (opStep_queuesShrink h hne).queue hash
  exact ⟨fun hmem => hvacant.1 (hlocks hmem), List.sublist_nil.mp hqueue⟩

theorem vacant_of_exec (hlocked : ∀ op ∈ ops, op.locks = false)
    (hne : ∀ op ∈ ops, ∀ pending, op ≠ .enqueueRun pending)
    (h : exec (opStep host) r ops = some r') (hvacant : r.Vacant hash) : r'.Vacant hash := by
  induction ops generalizing r with
  | nil =>
    cases h
    exact hvacant
  | cons op ops ih =>
    obtain ⟨r₁, hop, hops⟩ := exec_cons.mp h
    obtain ⟨hlocked, hlocked'⟩ := List.forall_mem_cons.mp hlocked
    obtain ⟨hne, hne'⟩ := List.forall_mem_cons.mp hne
    exact ih hlocked' hne' hops (vacant_of_opStep hlocked hne hop hvacant)

theorem addsRun_respawn (respawn : Respawn) (runId : String) (now : DateTime) :
    (respawn.op runId now).addsRun = false := by
  rcases respawn.op_cases runId now with ⟨error, heq⟩ | ⟨patch, phase, heq⟩ <;> rw [heq] <;> rfl

theorem scope_submitRun (c : DaemonConfig) (r : RunRegistry) (request : PendingRun) :
    (Action.submitRun request).scope c r =
      if Busy c r request then { ops := [.enqueueRun request] }
      else
        { follow := [.spawnRun request.planPath request.repoDir request.sessionName
            request.configDir .request] } := rfl

/-- A run is added by a registration or by a request that is queued. -/
theorem scope_of_addsRun (hop : op ∈ (a.scope c r).ops) (hadds : op.addsRun = true) :
    op.locks = true ∨ ∃ request, a = .submitRun request ∧ Busy c r request := by
  cases a with
  | register => exact .inl (List.mem_singleton.mp hop ▸ rfl)
  | submitRun request =>
    refine .inr ⟨request, rfl, ?_⟩
    rw [scope_submitRun] at hop
    by_cases hbusy : Busy c r request
    · exact hbusy
    · rw [if_neg hbusy] at hop
      cases hop
  | _ =>
    exfalso
    simp only [Action.scope] at hop
    grind [Op.addsRun, drainErrorOps, addsRun_respawn]

theorem vacant_of_enqueue {pending : PendingRun}
    (h : opStep host r (.enqueueRun pending) = some r')
    (hne : repoHash host pending.repoDir ≠ hash) (hvacant : r.Vacant hash) : r'.Vacant hash := by
  obtain ⟨-, rfl | ⟨epoch, rfl⟩⟩ := opStep_enqueueRun h
  · exact hvacant
  · refine ⟨hvacant.1, ?_⟩
    change (r.pushed host pending).queue hash = []
    rw [queue_pushed, if_neg fun heq => hne heq.symm]
    exact hvacant.2

/-- What locks another repo leaves this one vacant. -/
theorem vacant_of_locks (hop : op ∈ (a.scope c r).ops) (hlocks : op.locks = true)
    (h : opStep c.host r op = some r') (hne : a.lockedRepo c r ≠ some hash)
    (hvacant : r.Vacant hash) : r'.Vacant hash := by
  rcases scope_of_locks hop hlocks with
    ⟨plan, repo, session, config, caller, runId, now, io, metaIo, rfl, rfl⟩ |
    ⟨pending, retry, now, io, metaIo, rfl, rfl⟩
  · obtain ⟨-, ⟨-, hids, rfl⟩ | ⟨-, rfl⟩⟩ := opStep_registerRun h
    · have hgrants : r.Grants c.host repo io metaIo := by simpa [Op.lockedIds] using hids
      rw [Action.lockedRepo, if_pos hgrants] at hne
      refine ⟨fun hmem => ?_, hvacant.2⟩
      rcases Finset.mem_insert.mp hmem with heq | hmem
      · exact hne (congrArg some heq.symm)
      · exact hvacant.1 hmem
    · exact hvacant
  · have hshrink : QueuesShrink r r' := opStep_queuesShrink h fun _ heq => Op.noConfusion heq
    have hqueue : r'.queue hash = [] := List.sublist_nil.mp (hvacant.2 ▸ hshrink.queue hash)
    rcases opStep_promoteQueued h with ⟨e, he, hq, -, hids, rfl⟩ | ⟨-, hlocks⟩
    · have hgrants : r.Grants c.host e.repoDir io metaIo := by
        simpa [Op.lockedIds, he, hq] using hids
      rw [Action.lockedRepo, he, Option.bind_some, if_pos ⟨hq, hgrants⟩] at hne
      refine ⟨fun hmem => ?_, hqueue⟩
      rcases Finset.mem_insert.mp hmem with heq | hmem
      · exact hne (congrArg some heq.symm)
      · exact hvacant.1 hmem
    · exact ⟨hlocks ▸ hvacant.1, hqueue⟩

/-- A repo that the step neither locks nor queues a run for stays vacant. -/
theorem vacant_of_daemonStep (hs : daemonStep c d a = some d')
    (hlocked : a.lockedRepo c d.registry ≠ some hash)
    (hqueued : a.queuedRepo c d.registry ≠ some hash) (h : d.registry.Vacant hash) :
    d'.registry.Vacant hash := by
  have hexec := exec_of_daemonStep hs
  rcases scope_cases c d.registry a with ⟨op, hops, hlocks⟩ | hnone
  · rw [hops, exec_singleton] at hexec
    have hmem : op ∈ (a.scope c d.registry).ops := by
      rw [hops]
      exact List.mem_singleton_self op
    exact vacant_of_locks hmem hlocks hexec hlocked h
  · by_cases hadds : ∃ op ∈ (a.scope c d.registry).ops, op.addsRun = true
    · obtain ⟨op, hop, hadds⟩ := hadds
      rcases scope_of_addsRun hop hadds with hlocks | ⟨request, rfl, hbusy⟩
      · rw [hnone op hop] at hlocks
        cases hlocks
      · rw [scope_submitRun, if_pos hbusy, exec_singleton] at hexec
        refine vacant_of_enqueue hexec (fun heq => hqueued ?_) h
        rw [Action.queuedRepo, if_pos hbusy, heq]
    · refine vacant_of_exec hnone (fun op hop pending heq => ?_) hexec h
      exact hadds ⟨op, hop, heq ▸ rfl⟩

theorem requestedRepo_onError {caller : Caller} {error : String}
    (h : t ∈ caller.onError error) : t.requestedRepo host = none := by
  cases caller with
  | drain pending => rw [List.mem_singleton.mp h]; rfl
  | _ => cases h

theorem requestedRepo_onOk {caller : Caller} {runId : String}
    (h : t ∈ caller.onOk runId) : t.requestedRepo host = none := by
  cases caller with
  | schedule scheduleId => rw [List.mem_singleton.mp h]; rfl
  | _ => cases h

/-- A request that goes ahead found its repo free. -/
theorem submitRun_of_follow (ht : t ∈ (a.scope c r).follow)
    (hrequest : t.requestedRepo c.host = some hash) :
    ∃ request, a = .submitRun request ∧ ¬ Busy c r request ∧
      hash = repoHash c.host request.repoDir := by
  cases a with
  | submitRun request =>
    rw [scope_submitRun] at ht
    by_cases hbusy : Busy c r request
    · rw [if_pos hbusy] at ht
      cases ht
    · rw [if_neg hbusy] at ht
      obtain rfl := List.mem_singleton.mp ht
      cases hrequest
      exact ⟨request, rfl, hbusy, rfl⟩
  | fireSchedule =>
    obtain rfl := List.mem_singleton.mp ht
    cases hrequest
  | _ =>
    exfalso
    simp only [Action.scope] at ht
    grind [Task.requestedRepo, requestedRepo_onError, requestedRepo_onOk]

/-- A step in turn keeps the repos of the requests on their way clear. -/
theorem clear_step (hs : daemonStep c d a = some d') (hturn : InTurn c d a)
    (h : d.Clear c.host) : d'.Clear c.host := by
  intro t ht hash hrequest
  rw [tasks_of_daemonStep hs] at ht
  rcases List.mem_append.mp ht with hnew | hother
  · obtain ⟨request, rfl, hfree, rfl⟩ := submitRun_of_follow hnew hrequest
    have hexec := exec_of_daemonStep hs
    rw [scope_submitRun, if_neg hfree] at hexec
    rw [← Option.some.inj hexec]
    refine ⟨fun hmem => hfree (.inl (hasRepoLock_eq_true.mpr hmem)), ?_⟩
    have hlast := hturn.2
    rwa [timely, if_neg hfree, List.isEmpty_iff] at hlast
  · have hmem : t ∈ d.tasks := by
      cases hactor : (a.scope c d.registry).actor with
      | none => rwa [hactor] at hother
      | some t' =>
        rw [hactor] at hother
        exact List.mem_of_mem_erase hother
    refine vacant_of_daemonStep hs (fun hlocked => ?_) (fun hqueued => ?_) (h t hmem hash hrequest)
    · exact hturn.1 hash (by simp [hlocked]) t hother hrequest
    · exact hturn.1 hash (by simp [hqueued]) t hother hrequest

/-! ## The responses -/

theorem enqueueRun_of_room {request : PendingRun} (hroom : r.totalPendingCount < MAX_QUEUE_SIZE)
    (hnew : r.findDuplicate host request = none) :
    ∃ position entry r', r.enqueueRunWithoutSnapshot host request = .ok (position, entry, r') := by
  rw [enqueueRunWithoutSnapshot]
  dsimp only
  rw [if_neg (Nat.not_le.mpr hroom), hnew]
  exact ⟨_, _, _, rfl⟩

theorem response_submitRun {request : PendingRun}
    (hserviceable : serviceable c d (.submitRun request) = true)
    (htimely : timely c d (.submitRun request) = true) :
    ∀ response ∈ (Action.submitRun request).response c d.registry, response.accepts = true := by
  intro response hresponse
  rw [Action.response] at hresponse
  by_cases hbusy : Busy c d.registry request
  · rw [if_pos hbusy] at hresponse
    have hroom : d.registry.totalPendingCount < MAX_QUEUE_SIZE := by
      simpa [serviceable, hbusy] using hserviceable
    have hnew : d.registry.findDuplicate c.host request = none := by
      rwa [timely, if_pos hbusy, Option.isNone_iff_eq_none] at htimely
    obtain ⟨position, entry, r', hok⟩ := enqueueRun_of_room hroom hnew
    rw [hok] at hresponse
    cases hresponse
    rfl
  · rw [if_neg hbusy] at hresponse
    cases hresponse

/-- A request on its way gets the lock of its repo. -/
theorem response_register {plan repo : PathBuf} {session : Option String} {config : Option PathBuf}
    {runId : String} {now : DateTime} {io : LockIo} {metaIo : Except String Unit}
    (hio : io = .acquired ∧ metaIo.isOk = true) (hfree : repoHash c.host repo ∉ r.repoLocks) :
    (Action.register plan repo session config .request runId now io metaIo).response c r =
      none := by
  have hgrants : r.Grants c.host repo io metaIo := ⟨hfree, hio.1, hio.2⟩
  rcases registerRun_cases c.host r plan repo session config none runId now io metaIo with
    ⟨-, heq⟩ | ⟨hnot, -⟩
  · rw [Action.response, heq]
  · exact absurd hgrants hnot

theorem response_started {runId : String} {now : DateTime} {flush : Except String Unit}
    (hflush : flush.isOk = true)
    (hlive : (r.get runId).any (!·.status.isTerminal) = true) :
    (Action.started runId .request now flush).response c r = some (.runSubmitted runId) := by
  obtain ⟨e, hget, hterm⟩ := (Option.any_eq_true _ _).mp hlive
  have hcan : e.status.CanBecome .running := by
    cases hstatus : e.status with
    | queued | running => decide
    | _ =>
      rw [hstatus] at hterm
      cases hterm
  have hstaged : r.stageStatusLocked c.host runId .running (some "starting") none now =
      .ok (_, r.staged c.host runId e .running (some "starting") none now) :=
    stageStatusLocked_eq_ok.mpr ⟨e, hget, hcan, rfl, rfl⟩
  simp only [Action.response, hstaged]
  cases flush with
  | ok => rfl
  | error => cases hflush

theorem served_of_inTurn (hs : daemonStep c d a = some d') (hserviceable : serviceable c d a = true)
    (hturn : InTurn c d a) (h : d.Clear c.host) : Served c d a := by
  have hclear : ∀ plan repo session config runId now io metaIo,
      a = .register plan repo session config .request runId now io metaIo →
        d.registry.Vacant (repoHash c.host repo) := by
    rintro plan repo session config runId now io metaIo rfl
    exact h _ (actor_mem_of_daemonStep hs rfl) _ rfl
  refine ⟨?_, fun plan repo session config runId now io metaIo ha =>
    (hclear plan repo session config runId now io metaIo ha).2⟩
  intro response hresponse
  cases a with
  | submitRun request => exact response_submitRun hserviceable hturn.2 response hresponse
  | refuseRun _ _ _ _ caller | spawnFails _ caller _ _ | sendFails _ caller _ _ =>
    cases caller with
    | request => cases hserviceable
    | _ => cases hresponse
  | register plan repo session config caller runId now io metaIo =>
    cases caller with
    | request =>
      have hio : io = .acquired ∧ metaIo.isOk = true := by
        simpa [serviceable] using hserviceable
      rw [response_register hio
        (hclear plan repo session config runId now io metaIo rfl).1] at hresponse
      cases hresponse
    | _ => cases hresponse
  | started runId caller now flush =>
    cases caller with
    | request =>
      rw [response_started hserviceable hturn.2] at hresponse
      cases hresponse
      rfl
    | _ => cases hresponse
  | _ => cases hresponse

end

/-- In every run of the daemon in which each request is serviceable and comes in turn, every
response to a request accepts it, and a request is started directly only if no run is queued for its
repo. -/
theorem served_of_exec {c : DaemonConfig} {r : RunRegistry} {as : List Action} {d : Daemon}
    (hrun : exec (daemonStep c) ⟨r, []⟩ as = some d)
    (hserviceable : Along (daemonStep c) (fun d a => serviceable c d a = true) ⟨r, []⟩ as)
    (hturn : Along (daemonStep c) (InTurn c) ⟨r, []⟩ as) :
    Along (daemonStep c) (Served c) ⟨r, []⟩ as :=
  Along.of_invariant (I := Daemon.Clear c.host)
    (fun _ _ _ hs hgood hclear =>
      ⟨clear_step hs hgood.2 hclear, served_of_inTurn hs hgood.1 hgood.2 hclear⟩)
    hrun (hserviceable.and hturn) (fun _ ht => absurd ht List.not_mem_nil)

/-- One run is started, one is queued behind it, and one goes ahead in another repo. -/
theorem served_in_two_repos : Along (daemonStep ⟨.plain, 0⟩) (Served ⟨.plain, 0⟩) ⟨.new, []⟩
    (queuedBehind (.plain "a" "one.md" "/r") [.plain "b" "two.md" "/r"] ++
      (PendingRun.plain "c" "one.md" "/s").startActions) := by
  obtain ⟨d, hrun, -⟩ := exists_of_any
    (o := exec (daemonStep ⟨.plain, 0⟩) ⟨.new, []⟩
      (queuedBehind (.plain "a" "one.md" "/r") [.plain "b" "two.md" "/r"] ++
        (PendingRun.plain "c" "one.md" "/s").startActions))
    (P := fun d => d.registry.pendingEntries.length = 1) (by decide +kernel)
  exact served_of_exec hrun (by decide +kernel) (by decide +kernel)

/-- Two requests for a repo pass the check, and the first registers. -/
def racingRequests : List Action :=
  [.submitRun (.plain "a" "one.md" "/r"), .submitRun (.plain "b" "two.md" "/r"),
    .register "one.md" "/r" none none .request "a" 0 .acquired (.ok ())]

/-- A request comes between the end of a run and its drain, and registers. -/
def overtakingRequest : List Action :=
  queuedBehind (.plain "a" "one.md" "/r") [.plain "b" "two.md" "/r"] ++
    [.startMonitor "a", .monitorEnds "a" .completed 1, .submitRun (.plain "c" "three.md" "/r"),
      .register "three.md" "/r" none none .request "c" 1 .acquired (.ok ())]

/-- The second of two racing requests gets an error, and a run is started before the one queued for
its repo. -/
theorem request_loses_repo_or_overtakes :
    (∃ d, exec (daemonStep ⟨.plain, 0⟩) .init racingRequests = some d ∧
      (daemonStep ⟨.plain, 0⟩ d
        (.register "two.md" "/r" none none .request "b" 0 .acquired (.ok ()))).isSome = true ∧
      (Action.register "two.md" "/r" none none .request "b" 0 .acquired (.ok ())).response
        ⟨.plain, 0⟩ d.registry = some (.error "repository already has an active run: /r")) ∧
    ∃ d, exec (daemonStep ⟨.plain, 0⟩) .init overtakingRequest = some d ∧
      .spawnAfter "c" .request ∈ d.tasks ∧ (d.registry.queue "/r").map (·.runId) = ["b"] := by
  constructor
  · exact exists_of_any (o := exec (daemonStep ⟨.plain, 0⟩) .init racingRequests)
      (P := fun d =>
        (daemonStep ⟨.plain, 0⟩ d
          (.register "two.md" "/r" none none .request "b" 0 .acquired (.ok ()))).isSome = true ∧
        (Action.register "two.md" "/r" none none .request "b" 0 .acquired (.ok ())).response
          ⟨.plain, 0⟩ d.registry = some (.error "repository already has an active run: /r"))
      (by decide +kernel)
  · exact exists_of_any (o := exec (daemonStep ⟨.plain, 0⟩) .init overtakingRequest)
      (P := fun d => .spawnAfter "c" .request ∈ d.tasks ∧
        (d.registry.queue "/r").map (·.runId) = ["b"])
      (by decide +kernel)

end GreaterWill
