import GreaterWill.Lib.Run
import Mathlib.Data.Finset.Card
import Mathlib.Data.Finset.Dedup

/-!
# The owner of a session

`gw run` writes `.gw/session-owner.json` when it has a session, so that the next `gw run` in the
directory can adopt the session or kill it if the first one dies (`monitor/session_owner.rs`, and
`run_single_session` with `run_session_attempt`). The processes run one after the other, which is
what the instance lock is for; each can end at any point, and so can the sessions. The calls of a
process are its steps: the reads and writes of the file, and what it asks of `tmux`.

A session is left behind only at a step where something fails, or where its `gw` ends before the file
names it (`Workspace.leaves`); there are no other sessions than these, the one of the running `gw` and
the one that the file names (`sessions_of_run`).
-/

namespace GreaterWill.SingleSession

/-- Session ownership record. -/
structure SessionOwner where
  gwPid : UInt32
  sessionName : String
  planFile : String
  claudePid : UInt32
  /-- In seconds. -/
  startedAt : UInt64
  gwStartTime : UInt64 := 0
  deriving DecidableEq

/-- A process that runs a plan. -/
structure GwRun where
  pid : UInt32
  startTime : UInt64
  planStr : String
  sessionName : String
  deriving DecidableEq

/-- `trim_start_matches("./")`. -/
def normalizePlan : List Char → List Char
  | '.' :: '/' :: s => normalizePlan s
  | s => s

/-- The call that `gw` is about to make. -/
inductive GwPoint where
  /-- `read_session_owner` at the start. -/
  | checkOwner
  /-- Whether the session of the owner exists. -/
  | probeOrphan (owner : SessionOwner)
  /-- Whether its Claude process is alive. -/
  | probeClaude (owner : SessionOwner)
  | killOrphan (owner : SessionOwner)
  /-- `remove_session_owner`, at the end of the run or before its first attempt. -/
  | removeOwner (done : Bool)
  /-- The head of the loop, with the session to adopt. -/
  | loopHead (adopt : Option (String × UInt32))
  | writeOwner (name : String) (claudePid : UInt32)
  | monitor (name : String)
  /-- A spawn begins: whether there is a session of this name. -/
  | probeName
  | killName
  /-- `spawn_claude_session` looks again. -/
  | spawn
  | create
  | startClaude
  /-- The spawn failed. -/
  | spawnFailed
  deriving DecidableEq

/-- What `run_single_session` does after an attempt. -/
inductive AfterAttempt where
  /-- The pipeline has completed: the owner file is removed. -/
  | completed
  /-- The pipeline ends, and the owner file stays. -/
  | stopped
  | retry

/-- A working directory with the sessions in it. -/
structure Workspace where
  sessions : Finset String := ∅
  /-- The owner file. -/
  owner : Option SessionOwner := none
  /-- The process that holds the instance lock. -/
  gw : Option (GwRun × GwPoint) := none

inductive WorkspaceEvent where
  /-- A `gw run` gets the lock. -/
  | start (run : GwRun)
  /-- The call answers: the file can be read, written or removed, `tmux` answers, a kill works, the
  process is alive, the spawn is tried again. -/
  | next (ok : Bool)
  /-- The owner file is written, at the given time. -/
  | wrote (ok : Bool) (now : UInt64)
  /-- Claude is started; the pane has a process unless that failed. -/
  | started (claudePid : Option UInt32)
  /-- The monitor finds the session gone, or `tmux` does not answer any more. -/
  | vanished (answers : Bool) (after : AfterAttempt)
  /-- The monitor kills the session. -/
  | killed (works : Bool) (after : AfterAttempt)
  /-- The restart finds the pipeline complete. -/
  | alreadyDone
  /-- The process is killed, or ends with an error or at the pipeline timeout. -/
  | exits
  /-- A session ends by itself. -/
  | sessionEnds (name : String)

namespace Workspace
variable (w : Workspace) (run : GwRun)

/-- The running process goes on at the given point. -/
def goTo (point : GwPoint) : Workspace := { w with gw := some (run, point) }

/-- `kill_session`, which reports no failure. -/
def killSession (name : String) (works : Bool) : Workspace :=
  if works then { w with sessions := w.sessions.erase name } else w

def afterAttempt : AfterAttempt → Workspace
  | .completed => w.goTo run (.removeOwner true)
  | .stopped => { w with gw := none }
  | .retry => w.goTo run (.loopHead none)

/-- The next call of the running process. -/
def call : GwPoint → WorkspaceEvent → Option Workspace
  | .checkOwner, .next ok =>
    match ok, w.owner with
    | true, some owner => some (w.goTo run (.probeOrphan owner))
    | _, _ => some (w.goTo run (.loopHead none))
  | .probeOrphan owner, .next ok =>
    if ok && decide (owner.sessionName ∈ w.sessions) then some (w.goTo run (.probeClaude owner))
    else some (w.goTo run (.removeOwner false))
  | .probeClaude owner, .next ok =>
    if ok && normalizePlan owner.planFile.toList = normalizePlan run.planStr.toList then
      some (w.goTo run (.loopHead (some (owner.sessionName, owner.claudePid))))
    else some (w.goTo run (.killOrphan owner))
  | .killOrphan owner, .next ok =>
    some ((w.killSession owner.sessionName ok).goTo run (.removeOwner false))
  | .removeOwner done, .next ok =>
    let w := if ok then { w with owner := none } else w
    some (if done then { w with gw := none } else w.goTo run (.loopHead none))
  | .loopHead (some (name, claudePid)), .next _ => some (w.goTo run (.writeOwner name claudePid))
  | .loopHead none, .next _ => some (w.goTo run .probeName)
  | .loopHead none, .alreadyDone => some (w.goTo run (.removeOwner true))
  | .writeOwner name claudePid, .wrote ok now =>
    let owner : SessionOwner :=
      { gwPid := run.pid
        sessionName := name
        planFile := run.planStr
        claudePid
        startedAt := now
        gwStartTime := run.startTime }
    some ((if ok then { w with owner := some owner } else w).goTo run (.monitor name))
  | .probeName, .next ok =>
    some (w.goTo run (if ok && decide (run.sessionName ∈ w.sessions) then .killName else .spawn))
  | .killName, .next ok => some ((w.killSession run.sessionName ok).goTo run .spawn)
  | .spawn, .next ok =>
    -- a session of this name or no answer is an error
    some (w.goTo run (if ok && decide (run.sessionName ∉ w.sessions) then .create else .spawnFailed))
  | .create, .next ok =>
    if ok then
      some ({ w with sessions := insert run.sessionName w.sessions }.goTo run .startClaude)
    else some (w.goTo run .spawnFailed)
  | .startClaude, .started (some claudePid) =>
    some (w.goTo run (.writeOwner run.sessionName claudePid))
  | .startClaude, .started none => some (w.goTo run .spawnFailed)
  | .spawnFailed, .next ok =>
    some (if ok then w.goTo run (.loopHead none) else { w with gw := none })
  | .monitor name, .vanished answers after =>
    if answers && decide (name ∈ w.sessions) then none else some (w.afterAttempt run after)
  | .monitor name, .killed works after => some ((w.killSession name works).afterAttempt run after)
  | _, _ => none

/-- One event, if it can happen. -/
def step : WorkspaceEvent → Option Workspace
  | .start run => if w.gw.isSome then none else some (w.goTo run .checkOwner)
  | .exits => w.gw.map fun _ => { w with gw := none }
  | .sessionEnds name => some { w with sessions := w.sessions.erase name }
  | e => w.gw.bind fun gw => w.call gw.1 gw.2 e

/-- The session that the owner file names. -/
def recorded : Option String := w.owner.map (·.sessionName)

/-- The session that a process at the given point is concerned with. -/
def sessionAt : GwPoint → Option String
  | .checkOwner => w.recorded
  | .probeOrphan owner | .probeClaude owner | .killOrphan owner => some owner.sessionName
  | .removeOwner _ => none
  | .loopHead (some (name, _)) | .writeOwner name _ | .monitor name => some name
  | _ => some run.sessionName

/-- The session that the running process is concerned with; between two, that of the owner file. -/
def current : Option String :=
  match w.gw with
  | none => w.recorded
  | some (run, point) => w.sessionAt run point

/-- The session that an event turns away from, if it still exists. -/
def leaves (e : WorkspaceEvent) : List String :=
  (match w.gw, e with
  -- the owner file cannot be read, `tmux` does not answer, or the kill fails
  | some (_, .checkOwner), .next false => w.recorded
  | some (_, .probeOrphan owner), .next false | some (_, .killOrphan owner), .next false =>
    some owner.sessionName
  | some (_, .monitor name), .vanished false _ | some (_, .monitor name), .killed false _ => some name
  -- the process ends, and the owner file does not name its session
  | some _, .exits | some (_, .spawnFailed), .next false =>
    w.current.filter (some · ≠ w.recorded)
  -- the session of a failed spawn
  | some (run, .loopHead none), .alreadyDone => some run.sessionName
  | _, _ => none).toList.filter (· ∈ w.sessions)

/-- Every session is the current one or was left behind. -/
def Known (lost : List String) : Prop := ∀ n ∈ w.sessions, w.current = some n ∨ n ∈ lost

variable {w run} {w' : Workspace} {e : WorkspaceEvent} {lost : List String} {point : GwPoint}

attribute [local simp] call leaves sessionAt

/-- An event adds no session but the current one, and leaves the current one only if it says so. -/
structure Follows (w : Workspace) (e : WorkspaceEvent) (w' : Workspace) : Prop where
  sessions : ∀ n ∈ w'.sessions, n ∈ w.sessions ∨ w'.current = some n
  current : ∀ n ∈ w'.sessions, n ∈ w.sessions → w.current = some n →
    w'.current = some n ∨ n ∈ w.leaves e

theorem Known.step (H : w.Known lost) (h : Follows w e w') : w'.Known (lost ++ w.leaves e) := by
  intro n hn
  rw [List.mem_append]
  rcases h.sessions n hn with hold | hcurrent
  · rcases H n hold with hcurrent | hlost
    · rcases h.current n hn hold hcurrent with hcurrent | hleft
      · exact .inl hcurrent
      · exact .inr (.inr hleft)
    · exact .inr (.inl hlost)
  · exact .inl hcurrent

theorem current_of_gw (h : w.gw = some (run, point)) : w.current = w.sessionAt run point := by
  rw [current, h]

/-- A call that changes no session. -/
theorem follows_of_sessions (hgw : w.gw = some (run, point)) (hsessions : w'.sessions = w.sessions)
    (hcurrent : ∀ n ∈ w.sessions, w.sessionAt run point = some n →
      w'.current = some n ∨ n ∈ w.leaves e) : Follows w e w' := by
  constructor
  · intro n hn
    rw [hsessions] at hn
    exact .inl hn
  · intro n _ hn hcur
    rw [current_of_gw hgw] at hcur
    exact hcurrent n hn hcur

/-- A call after which the process is concerned with the same session. -/
theorem follows_same (hgw : w.gw = some (run, point)) (hsessions : w'.sessions = w.sessions)
    (hcurrent : w'.current = w.sessionAt run point) : Follows w e w' :=
  follows_of_sessions hgw hsessions fun _ _ hcur => .inl (hcurrent.trans hcur)

/-- A call that kills the session of the process, or tries to. -/
theorem follows_killSession {name : String} {works : Bool} (hgw : w.gw = some (run, point))
    (hsession : w.sessionAt run point = some name)
    (hsessions : w'.sessions = (w.killSession name works).sessions)
    (hleft : works = false → name ∈ w.sessions → w'.current = some name ∨ name ∈ w.leaves e) :
    Follows w e w' := by
  cases works with
  | false =>
    refine follows_of_sessions hgw hsessions fun n hn hcur => ?_
    rw [hsession] at hcur
    cases hcur
    exact hleft rfl hn
  | true =>
    have herase : w'.sessions = w.sessions.erase name := hsessions
    constructor
    · intro n hn
      rw [herase] at hn
      exact .inl (Finset.mem_of_mem_erase hn)
    · intro n hn _ hcur
      rw [current_of_gw hgw, hsession] at hcur
      cases hcur
      rw [herase] at hn
      exact absurd hn (Finset.notMem_erase name _)

/-- The file is read; one that cannot be read counts as missing. -/
theorem follows_checkOwner (hgw : w.gw = some (run, .checkOwner))
    (h : w.call run .checkOwner e = some w') : Follows w e w' := by
  cases e with
  | next ok =>
    cases ok with
    | false =>
      cases h
      refine follows_of_sessions hgw rfl fun n hn hcur => .inr ?_
      have hrecorded : w.recorded = some n := hcur
      simp [hgw, hrecorded, hn]
    | true =>
      cases howner : w.owner with
      | none =>
        simp only [call, howner, Option.some.injEq] at h
        refine follows_of_sessions hgw (by rw [← h]; rfl) fun n hn hcur => ?_
        simp [recorded, howner] at hcur
      | some owner =>
        simp only [call, howner, Option.some.injEq] at h
        refine follows_same hgw (by rw [← h]; rfl) ?_
        rw [← h]
        simp [current, goTo, recorded, howner]
  | _ => cases h

theorem follows_probeOrphan {owner : SessionOwner} (hgw : w.gw = some (run, .probeOrphan owner))
    (h : w.call run (.probeOrphan owner) e = some w') : Follows w e w' := by
  cases e with
  | next ok =>
    simp only [call] at h
    split at h
    · cases h
      exact follows_same hgw rfl rfl
    · next hgone =>
      cases h
      refine follows_of_sessions hgw rfl fun n hn hcur => .inr ?_
      cases hcur
      cases ok with
      | false => simp [hgw, hn]
      | true => simp [hn] at hgone
  | _ => cases h

theorem follows_probeClaude {owner : SessionOwner} (hgw : w.gw = some (run, .probeClaude owner))
    (h : w.call run (.probeClaude owner) e = some w') : Follows w e w' := by
  cases e with
  | next ok =>
    simp only [call] at h
    split at h
    · cases h
      exact follows_same hgw rfl rfl
    · cases h
      exact follows_same hgw rfl rfl
  | _ => cases h

theorem follows_killOrphan {owner : SessionOwner} (hgw : w.gw = some (run, .killOrphan owner))
    (h : w.call run (.killOrphan owner) e = some w') : Follows w e w' := by
  cases e with
  | next ok =>
    cases h
    refine follows_killSession hgw rfl rfl fun hfails hn => .inr ?_
    rw [hfails]
    simp [hgw, hn]
  | _ => cases h

/-- After the file was removed there is no session to be concerned with. -/
theorem follows_removeOwner {done : Bool} (hgw : w.gw = some (run, .removeOwner done))
    (h : w.call run (.removeOwner done) e = some w') : Follows w e w' := by
  cases e with
  | next ok =>
    have hnone : ∀ n, w.sessionAt run (.removeOwner done) ≠ some n := fun n hcur => by cases hcur
    refine follows_of_sessions hgw ?_ fun n _ hcur => absurd hcur (hnone n)
    cases h
    cases ok
    · cases done
      · rfl
      · rfl
    · cases done
      · rfl
      · rfl
  | _ => cases h

theorem follows_loopHead {adopt : Option (String × UInt32)}
    (hgw : w.gw = some (run, .loopHead adopt)) (h : w.call run (.loopHead adopt) e = some w') :
    Follows w e w' := by
  cases adopt with
  | none =>
    cases e with
    | next ok =>
      cases h
      exact follows_same hgw rfl rfl
    | alreadyDone =>
      cases h
      refine follows_of_sessions hgw rfl fun n hn hcur => .inr ?_
      cases hcur
      simp [hgw, hn]
    | _ => cases h
  | some adopt =>
    cases e with
    | next ok =>
      cases h
      exact follows_same hgw rfl rfl
    | _ => cases h

theorem follows_writeOwner {name : String} {claudePid : UInt32}
    (hgw : w.gw = some (run, .writeOwner name claudePid))
    (h : w.call run (.writeOwner name claudePid) e = some w') : Follows w e w' := by
  cases e with
  | wrote ok now =>
    cases h
    refine follows_same hgw ?_ rfl
    cases ok
    · rfl
    · rfl
  | _ => cases h

/-- A spawn looks for a session of the name, and kills it. -/
theorem follows_probeName (hgw : w.gw = some (run, .probeName))
    (h : w.call run .probeName e = some w') : Follows w e w' := by
  cases e with
  | next ok =>
    cases h
    refine follows_same hgw rfl ?_
    rw [current_of_gw rfl]
    split
    · rfl
    · rfl
  | _ => cases h

theorem follows_killName (hgw : w.gw = some (run, .killName))
    (h : w.call run .killName e = some w') : Follows w e w' := by
  cases e with
  | next ok =>
    cases h
    exact follows_killSession hgw rfl rfl fun _ _ => .inl rfl
  | _ => cases h

theorem follows_spawn (hgw : w.gw = some (run, .spawn)) (h : w.call run .spawn e = some w') :
    Follows w e w' := by
  cases e with
  | next ok =>
    cases h
    refine follows_same hgw rfl ?_
    rw [current_of_gw rfl]
    split
    · rfl
    · rfl
  | _ => cases h

/-- The new session is the current one. -/
theorem follows_create (hgw : w.gw = some (run, .create)) (h : w.call run .create e = some w') :
    Follows w e w' := by
  cases e with
  | next ok =>
    cases ok with
    | false =>
      cases h
      exact follows_same hgw rfl rfl
    | true =>
      cases h
      constructor
      · intro n hn
        rcases Finset.mem_insert.mp hn with rfl | hold
        · exact .inr rfl
        · exact .inl hold
      · intro n _ _ hcur
        rw [current_of_gw hgw] at hcur
        exact .inl hcur
  | _ => cases h

theorem follows_startClaude (hgw : w.gw = some (run, .startClaude))
    (h : w.call run .startClaude e = some w') : Follows w e w' := by
  cases e with
  | started claudePid =>
    cases claudePid with
    | none =>
      cases h
      exact follows_same hgw rfl rfl
    | some claudePid =>
      cases h
      exact follows_same hgw rfl rfl
  | _ => cases h

/-- A process that ends leaves its session to the owner file. -/
theorem follows_exit {v : Workspace} (hgw : w.gw = some (run, point)) (hsessions : v.sessions = w.sessions)
    (howner : v.owner = w.owner) (hend : v.gw = none)
    (hleaves : w.leaves e = (w.current.filter (some · ≠ w.recorded)).toList.filter (· ∈ w.sessions)) :
    Follows w e v := by
  refine follows_of_sessions hgw hsessions fun n hn hcur => ?_
  have hcurrent : v.current = w.recorded := by rw [current, hend, recorded, recorded, howner]
  rw [← current_of_gw hgw] at hcur
  by_cases hrecorded : some n = w.recorded
  · exact .inl (hcurrent.trans hrecorded.symm)
  · rw [hleaves]
    simp [hcur, hrecorded, hn]

theorem follows_spawnFailed (hgw : w.gw = some (run, .spawnFailed))
    (h : w.call run .spawnFailed e = some w') : Follows w e w' := by
  cases e with
  | next ok =>
    cases ok with
    | false =>
      cases h
      exact follows_exit hgw rfl rfl rfl (by simp [hgw])
    | true =>
      cases h
      exact follows_same hgw rfl rfl
  | _ => cases h

/-- After an attempt the session is gone. -/
theorem follows_monitor {name : String} (hgw : w.gw = some (run, .monitor name))
    (h : w.call run (.monitor name) e = some w') : Follows w e w' := by
  cases e with
  | vanished answers after =>
    simp only [call] at h
    split at h
    · cases h
    · next hgone =>
      cases h
      refine follows_of_sessions hgw ?_ fun n hn hcur => .inr ?_
      · cases after <;> rfl
      · cases hcur
        cases answers with
        | false => simp [hgw, hn]
        | true => simp [hn] at hgone
  | killed works after =>
    cases h
    have hsessions : ((w.killSession name works).afterAttempt run after).sessions =
        (w.killSession name works).sessions := by
      cases after <;> rfl
    refine follows_killSession hgw rfl hsessions fun hfails hn => .inr ?_
    rw [hfails]
    simp [hgw, hn]
  | _ => cases h

theorem follows_call (hgw : w.gw = some (run, point)) (h : w.call run point e = some w') :
    Follows w e w' := by
  cases point with
  | checkOwner => exact follows_checkOwner hgw h
  | probeOrphan owner => exact follows_probeOrphan hgw h
  | probeClaude owner => exact follows_probeClaude hgw h
  | killOrphan owner => exact follows_killOrphan hgw h
  | removeOwner done => exact follows_removeOwner hgw h
  | loopHead adopt => exact follows_loopHead hgw h
  | writeOwner name claudePid => exact follows_writeOwner hgw h
  | monitor name => exact follows_monitor hgw h
  | probeName => exact follows_probeName hgw h
  | killName => exact follows_killName hgw h
  | spawn => exact follows_spawn hgw h
  | create => exact follows_create hgw h
  | startClaude => exact follows_startClaude hgw h
  | spawnFailed => exact follows_spawnFailed hgw h

/-- **One step.** -/
theorem follows_step (h : w.step e = some w') : Follows w e w' := by
  cases e with
  | start run =>
    rw [step] at h
    split at h
    · cases h
    · next hfree =>
      cases h
      refine ⟨fun n hn => .inl hn, fun n _ _ hcur => .inl ?_⟩
      rw [current, Option.not_isSome_iff_eq_none.mp hfree] at hcur
      exact hcur
  | exits =>
    obtain ⟨⟨run, point⟩, hgw, rfl⟩ := Option.map_eq_some_iff.mp h
    exact follows_exit hgw rfl rfl rfl (by simp [hgw])
  | sessionEnds name =>
    cases h
    exact ⟨fun n hn => .inl (Finset.mem_of_mem_erase hn), fun n _ _ hcur => .inl hcur⟩
  | _ =>
    obtain ⟨⟨run, point⟩, hgw, hcall⟩ := Option.bind_eq_some_iff.mp h
    exact follows_call hgw hcall

/-- `tmux` was asked before a session is created, and no other process creates one. -/
def NameFree (w : Workspace) : Prop :=
  ∀ run, w.gw = some (run, .create) → run.sessionName ∉ w.sessions

theorem nameFree_call (h : w.call run point e = some w') : w'.NameFree := by
  intro run' hcreate
  have hafter : ∀ (v : Workspace) after, (v.afterAttempt run after).gw ≠ some (run', .create) := by
    intro v after hpoint
    cases after with
    | completed => cases hpoint
    | stopped => cases hpoint
    | retry => cases hpoint
  unfold call at h
  split at h
  case h_5 done ok =>
    cases h
    cases done with
    | false => cases hcreate
    | true => cases hcreate
  case h_12 ok =>
    split at h
    · next hfree =>
      cases h
      cases hcreate
      rw [Bool.and_eq_true, decide_eq_true_eq] at hfree
      exact hfree.2
    · cases h
      cases hcreate
  case h_17 name answers after =>
    split at h
    · cases h
    · cases h
      exact absurd hcreate (hafter _ after)
  case h_18 name works after =>
    cases h
    exact absurd hcreate (hafter _ after)
  -- the other calls lead to another point
  all_goals try split at h
  all_goals cases h
  all_goals cases hcreate

theorem NameFree.step (H : w.NameFree) (h : w.step e = some w') : w'.NameFree := by
  cases e with
  | start run =>
    rw [Workspace.step] at h
    split at h
    · cases h
    · cases h
      intro run' hcreate
      cases hcreate
  | exits =>
    obtain ⟨gw, -, rfl⟩ := Option.map_eq_some_iff.mp h
    intro run' hcreate
    cases hcreate
  | sessionEnds name =>
    cases h
    exact fun run' hcreate hmem => H run' hcreate (Finset.mem_of_mem_erase hmem)
  | _ =>
    obtain ⟨gw, -, hcall⟩ := Option.bind_eq_some_iff.mp h
    exact nameFree_call hcall

theorem Known.card_le (H : w.Known lost) : w.sessions.card ≤ lost.length + 1 := by
  have hsub : w.sessions ⊆ (w.current.toList ++ lost).toFinset := by
    intro n hn
    rw [List.mem_toFinset, List.mem_append, Option.mem_toList]
    exact H n hn
  have hcard := (Finset.card_le_card hsub).trans (List.toFinset_card_le _)
  have hcurrent : w.current.toList.length ≤ 1 := by cases w.current <;> simp
  rw [List.length_append] at hcard
  omega

theorem Known.card_le_of_create (H : w.Known lost) (hfree : w.NameFree)
    (hcreate : w.gw = some (run, .create)) : w.sessions.card ≤ lost.length := by
  have hsub : w.sessions ⊆ lost.toFinset := by
    intro n hn
    rw [List.mem_toFinset]
    rcases H n hn with hcur | hlost
    · rw [current_of_gw hcreate] at hcur
      cases hcur
      exact absurd hn (hfree run hcreate)
    · exact hlost
  exact (Finset.card_le_card hsub).trans (List.toFinset_card_le _)

/-- **No session is forgotten, but at the steps that say so.** Every session is the one the running
process is concerned with, or between two processes the one the owner file names, or was left behind
at a step where a call failed or a process ended too early. So there is one more session than were
left behind at most, and none but these when a session is created. -/
theorem sessions_of_run (es : List WorkspaceEvent) (w : Workspace)
    (hrun : exec Workspace.step {} es = some w) :
    (∀ n ∈ w.sessions, w.current = some n ∨ n ∈ yields Workspace.step Workspace.leaves {} es) ∧
    w.sessions.card ≤ (yields Workspace.step Workspace.leaves {} es).length + 1 ∧
    ∀ run, w.gw = some (run, .create) →
      w.sessions.card ≤ (yields Workspace.step Workspace.leaves {} es).length := by
  have H : w.Known ([] ++ yields Workspace.step Workspace.leaves {} es) ∧ w.NameFree :=
    exec_invariant_yields (I := fun lost w => w.Known lost ∧ w.NameFree)
    (fun lost w e w' h (_ : True) H => ⟨H.1.step (follows_step h), H.2.step h⟩) hrun Along.trivial
    ⟨fun n hn => absurd hn (Finset.notMem_empty n), fun run hcreate => nomatch hcreate⟩
  rw [List.nil_append] at H
  exact ⟨H.1, H.1.card_le, fun run hcreate => H.1.card_le_of_create H.2 hcreate⟩

/-- A process that is killed before it writes the owner file, and the next one. -/
def earlyExit : List WorkspaceEvent :=
  [.start ⟨11, 1000, "plans/a.md", "gw-a-17"⟩, .next true, .next true, .next true, .next true,
    .next true, .exits,
    .start ⟨12, 1010, "plans/a.md", "gw-a-18"⟩, .next true, .next true, .next true, .next true,
    .next true]

/-- The session of the first process is left behind beside that of the second. -/
theorem two_sessions_after_early_exit : ∃ w, exec Workspace.step {} earlyExit = some w ∧
    w.sessions = {"gw-a-17", "gw-a-18"} ∧
    yields Workspace.step Workspace.leaves {} earlyExit = ["gw-a-17"] ∧
    w.sessions.card ≤ (yields Workspace.step Workspace.leaves {} earlyExit).length + 1 := by
  obtain ⟨w, hrun, hsessions⟩ := exists_of_any
    (o := exec Workspace.step {} earlyExit)
    (P := fun w => w.sessions = {"gw-a-17", "gw-a-18"}) (by decide)
  exact ⟨w, hrun, hsessions, by decide, (sessions_of_run earlyExit w hrun).2.1⟩

/-- The session that the owner file names is adopted by the next process for its plan. -/
theorem orphan_adopted {owner : SessionOwner} (hgw : w.gw = none) (howner : w.owner = some owner)
    (hsession : owner.sessionName ∈ w.sessions)
    (hplan : normalizePlan owner.planFile.toList = normalizePlan run.planStr.toList)
    (now : UInt64) : ∃ w', exec Workspace.step w
        [.start run, .next true, .next true, .next true, .next true, .wrote true now] = some w' ∧
      w'.gw = some (run, .monitor owner.sessionName) ∧ w'.sessions = w.sessions ∧
      w'.recorded = some owner.sessionName := by
  have hstart : w.step (.start run) = some (w.goTo run .checkOwner) := by rw [Workspace.step, hgw]; rfl
  have hread : (w.goTo run .checkOwner).step (.next true) =
      some (w.goTo run (.probeOrphan owner)) := by
    simp only [Workspace.step, goTo, Option.bind_some, call, howner]
  have hprobe : (w.goTo run (.probeOrphan owner)).step (.next true) =
      some (w.goTo run (.probeClaude owner)) := by
    simp [Workspace.step, goTo, hsession]
  have hadopt : (w.goTo run (.probeClaude owner)).step (.next true) =
      some (w.goTo run (.loopHead (some (owner.sessionName, owner.claudePid)))) := by
    simp [Workspace.step, goTo, hplan]
  exact ⟨_, exec_cons.mpr ⟨_, hstart, exec_cons.mpr ⟨_, hread, exec_cons.mpr ⟨_, hprobe,
    exec_cons.mpr ⟨_, hadopt, rfl⟩⟩⟩⟩, rfl, rfl, rfl⟩

end Workspace

end GreaterWill.SingleSession
