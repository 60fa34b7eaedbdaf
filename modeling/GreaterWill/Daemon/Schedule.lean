import GreaterWill.Daemon.Entry
import GreaterWill.Lib.Map
import GreaterWill.Lib.Run

/-!
# The schedule registry

`ScheduleRegistry` of `daemon/schedule.rs`: the entries and the five operations on them. An
operation changes the entries and saves them; what saving returns comes with the operation, and the
change of the entries stays when it fails. The `cron` crate is the parameter `cron`: the next time
of an expression after a given one, if the expression is valid and there is one.
-/

namespace GreaterWill

inductive ScheduleKind where
  | cron (expression : String)
  | oneShot (fireAt : DateTime)
  | delayed (delaySecs : UInt64)
  deriving DecidableEq, Repr

inductive ScheduleStatus where
  | active
  | paused
  | completed
  | failed
  | rejected
  deriving DecidableEq, Repr

def ScheduleStatus.isTerminal : ScheduleStatus → Bool
  | .active | .paused => false
  | .completed | .failed | .rejected => true

structure ScheduleEntry where
  id : String
  planPath : PathBuf
  repoDir : PathBuf
  configDir : Option PathBuf
  verbose : UInt8
  kind : ScheduleKind
  status : ScheduleStatus
  createdAt : DateTime
  lastFired : Option DateTime
  nextFire : Option DateTime
  fireCount : UInt32
  label : Option String
  lastError : Option String
  deriving DecidableEq, Repr

structure ScheduleRegistry where
  entries : Map String ScheduleEntry

/-- `compute_next_fire`. -/
def computeNextFire (cron : String → DateTime → Option DateTime) (kind : ScheduleKind)
    (after : DateTime) : Option DateTime :=
  match kind with
  | .cron expression => cron expression after
  | .oneShot fireAt => if fireAt > after then some fireAt else none
  -- the creation time would be needed
  | .delayed _ => none

/-- An entry after it has fired: only a cron schedule fires again. -/
def ScheduleEntry.fired (cron : String → DateTime → Option DateTime) (now : DateTime)
    (entry : ScheduleEntry) : ScheduleEntry :=
  let entry := { entry with lastFired := some now, fireCount := entry.fireCount + 1 }
  match entry.kind with
  | .oneShot _ | .delayed _ => { entry with status := .completed, nextFire := none }
  | .cron _ => { entry with nextFire := computeNextFire cron entry.kind now }

namespace ScheduleRegistry

def new : ScheduleRegistry where
  entries := ∅

/-- The entry of an id. -/
def get (r : ScheduleRegistry) (id : String) : Option ScheduleEntry := r.entries.lookup id

/-- The error of an id without an entry. -/
def notFound (id : String) : String := s!"schedule '{id}' not found"

def add (r : ScheduleRegistry) (entry : ScheduleEntry) (save : Except String Unit) :
    Except String String × ScheduleRegistry :=
  (save.map fun _ => entry.id, { entries := r.entries.insert entry.id entry })

def remove (r : ScheduleRegistry) (id : String) (save : Except String Unit) :
    Except String Unit × ScheduleRegistry :=
  match r.get id with
  | none => (.error (notFound id), r)
  | some _ => (save, { entries := r.entries.erase id })

/-- An entry is changed and saved. -/
def modify (r : ScheduleRegistry) (id : String) (save : Except String Unit)
    (f : ScheduleEntry → ScheduleEntry) : Except String Unit × ScheduleRegistry :=
  match r.get id with
  | none => (.error (notFound id), r)
  | some entry => (save, { entries := r.entries.insert id (f entry) })

def pause (r : ScheduleRegistry) (id : String) (save : Except String Unit) :
    Except String Unit × ScheduleRegistry :=
  r.modify id save fun entry => { entry with status := .paused, nextFire := none }

def resume (cron : String → DateTime → Option DateTime) (r : ScheduleRegistry) (id : String)
    (now : DateTime) (save : Except String Unit) : Except String Unit × ScheduleRegistry :=
  r.modify id save fun entry =>
    { entry with status := .active, nextFire := computeNextFire cron entry.kind now }

def recordFired (cron : String → DateTime → Option DateTime) (r : ScheduleRegistry) (id : String)
    (now : DateTime) (save : Except String Unit) : Except String Unit × ScheduleRegistry :=
  r.modify id save (·.fired cron now)

/-- The entry fires when the loop looks at this time. -/
def isReady (now : DateTime) (e : ScheduleEntry) : Bool :=
  e.status = .active && e.nextFire.any fun nextFire => nextFire ≤ now

def getReadySchedules (r : ScheduleRegistry) (now : DateTime) : List ScheduleEntry :=
  (r.entries.entries.map (·.2)).filter (isReady now)

end ScheduleRegistry

/-- An operation with what saving returns. -/
inductive ScheduleOp where
  | add (entry : ScheduleEntry) (save : Except String Unit)
  | remove (id : String) (save : Except String Unit)
  | pause (id : String) (save : Except String Unit)
  | resume (id : String) (now : DateTime) (save : Except String Unit)
  | recordFired (id : String) (now : DateTime) (save : Except String Unit)
  deriving DecidableEq

section
variable (cron : String → DateTime → Option DateTime)

def ScheduleRegistry.apply (r : ScheduleRegistry) : ScheduleOp → ScheduleRegistry
  | .add entry save => (r.add entry save).2
  | .remove id save => (r.remove id save).2
  | .pause id save => (r.pause id save).2
  | .resume id now save => (r.resume cron id now save).2
  | .recordFired id now save => (r.recordFired cron id now save).2

/-- One operation. -/
def scheduleStep (r : ScheduleRegistry) (op : ScheduleOp) : Option ScheduleRegistry :=
  some (r.apply cron op)

/-- From some time on the loop finds the entry ready. -/
def ScheduleRegistry.BecomesReady (r : ScheduleRegistry) (e : ScheduleEntry) : Prop :=
  ∃ time, ∀ now, time ≤ now → e ∈ r.getReadySchedules now

/-- The entry is to fire once. -/
def ScheduleKind.isOnce : ScheduleKind → Bool
  | .cron _ => false
  | .oneShot _ | .delayed _ => true

/-- What an operation owes to the entries: every Active entry becomes ready; an entry that is to
fire once and has not fired is Active again after a resume, and becomes ready; an entry in a
terminal status is not made Active or Paused, though another entry may take its id. -/
structure LifecycleStep (r : ScheduleRegistry) (op : ScheduleOp) (r' : ScheduleRegistry) :
    Prop where
  active : ∀ id e, r'.get id = some e → e.status = .active → r'.BecomesReady e
  resumed : ∀ id now save, op = .resume id now save → ∀ e, r.get id = some e → e.status = .paused →
    e.kind.isOnce = true → e.lastFired = none →
    ∃ e', r'.get id = some e' ∧ e'.status = .active ∧ r'.BecomesReady e'
  terminal : ∀ id e e', r.get id = some e → e.status.isTerminal = true → r'.get id = some e' →
    e'.status.isTerminal = true ∨ ∃ entry save, op = .add entry save ∧ entry.id = id

/-- The operation keeps to the lifecycle: what is added as Active has a time to fire; what is paused
is not terminal; what is resumed is not terminal and is a cron schedule with a next time, or a
one-shot one whose time has not passed; a cron schedule that fires when it is Active has a next
time. -/
def ScheduleRegistry.KeepsLifecycle (r : ScheduleRegistry) : ScheduleOp → Prop
  | .add entry _ => entry.status = .active → entry.nextFire.isSome = true
  | .remove _ _ => True
  | .pause id _ => ∀ e ∈ r.get id, e.status.isTerminal = false
  | .resume id now _ =>
    ∀ e ∈ r.get id, e.status.isTerminal = false ∧ (computeNextFire cron e.kind now).isSome = true
  | .recordFired id now _ =>
    ∀ e ∈ r.get id, e.status = .active → e.kind.isOnce = false →
      (computeNextFire cron e.kind now).isSome = true

instance ScheduleRegistry.KeepsLifecycle.decidable (r : ScheduleRegistry) :
    ∀ op, Decidable (r.KeepsLifecycle cron op)
  | .add entry _ =>
    inferInstanceAs (Decidable (entry.status = .active → entry.nextFire.isSome = true))
  | .remove _ _ => inferInstanceAs (Decidable True)
  | .pause id _ =>
    inferInstanceAs (Decidable (∀ e ∈ r.get id, e.status.isTerminal = false))
  | .resume id now _ =>
    inferInstanceAs (Decidable (∀ e ∈ r.get id, e.status.isTerminal = false ∧
      (computeNextFire cron e.kind now).isSome = true))
  | .recordFired id now _ =>
    inferInstanceAs (Decidable (∀ e ∈ r.get id, e.status = .active → e.kind.isOnce = false →
      (computeNextFire cron e.kind now).isSome = true))

end

namespace ScheduleRegistry

/-- Every Active entry has a time to fire. -/
structure Sound (r : ScheduleRegistry) : Prop where
  active : ∀ id e, r.get id = some e → e.status = .active → e.nextFire.isSome = true

section
variable {cron : String → DateTime → Option DateTime} {r r' : ScheduleRegistry} {id id' : String}
  {e e' : ScheduleEntry} {op : ScheduleOp} {save : Except String Unit}
  {f : ScheduleEntry → ScheduleEntry}

theorem mem_getReadySchedules {now : DateTime} :
    e ∈ r.getReadySchedules now ↔ (∃ id, r.get id = some e) ∧ isReady now e = true := by
  unfold getReadySchedules
  rw [List.mem_filter, List.mem_map]
  refine and_congr_left fun _ => ?_
  constructor
  · rintro ⟨⟨id, e⟩, hmem, rfl⟩
    exact ⟨id, AList.mem_entries_iff.mp hmem⟩
  · intro ⟨id, hget⟩
    exact ⟨⟨id, e⟩, AList.mem_entries_iff.mpr hget, rfl⟩

/-- An Active entry becomes ready exactly if it has a time to fire. -/
theorem becomesReady_iff (hget : r.get id = some e) (hactive : e.status = .active) :
    r.BecomesReady e ↔ e.nextFire.isSome = true := by
  constructor
  · intro ⟨time, htime⟩
    obtain ⟨-, hready⟩ := mem_getReadySchedules.mp (htime time (Int.le_refl _))
    unfold isReady at hready
    obtain ⟨-, hany⟩ := Bool.and_eq_true_iff.mp hready
    obtain ⟨nextFire, hnext, -⟩ := (Option.any_eq_true _ _).mp hany
    exact Option.isSome_of_mem hnext
  · intro hsome
    obtain ⟨nextFire, hnext⟩ := Option.isSome_iff_exists.mp hsome
    refine ⟨nextFire, fun now hnow => mem_getReadySchedules.mpr ⟨⟨id, hget⟩, ?_⟩⟩
    unfold isReady
    rw [hactive, hnext]
    simpa using hnow

theorem get_add : (r.add e save).2.get id = if id = e.id then some e else r.get id :=
  AList.lookup_insert_eq_ite

theorem get_remove (hget : (r.remove id' save).2.get id = some e) : r.get id = some e := by
  unfold remove at hget
  split at hget
  · exact hget
  · unfold get at hget
    by_cases hid : id = id'
    · rw [hid, AList.lookup_erase] at hget
      cases hget
    · rw [AList.lookup_erase_ne hid] at hget
      exact hget

theorem get_modify : (r.modify id' save f).2.get id =
    if id = id' then (r.get id').map f else r.get id := by
  unfold modify
  cases h : r.get id' with
  | none =>
    dsimp only
    split
    · rename_i hid
      rw [hid, h]
      rfl
    · rfl
  | some entry => exact AList.lookup_insert_eq_ite

/-- An entry after a change of one entry. -/
theorem get_modify_cases (hget : (r.modify id' save f).2.get id = some e') :
    (id = id' ∧ ∃ e, r.get id' = some e ∧ f e = e') ∨ (id ≠ id' ∧ r.get id = some e') := by
  rw [get_modify] at hget
  split at hget
  · exact .inl ⟨‹_›, Option.map_eq_some_iff.mp hget⟩
  · exact .inr ⟨‹_›, hget⟩

/-- An entry that is changed. -/
theorem get_modify_self (hget : r.get id = some e) (save : Except String Unit)
    (f : ScheduleEntry → ScheduleEntry) : (r.modify id save f).2.get id = some (f e) := by
  rw [get_modify, if_pos rfl, hget]
  rfl

theorem fired_of_once (h : e.kind.isOnce = true) (cron : String → DateTime → Option DateTime)
    (now : DateTime) :
    (e.fired cron now).status = .completed ∧ (e.fired cron now).nextFire = none := by
  unfold ScheduleEntry.fired
  cases hkind : e.kind with
  | cron expression =>
    rw [hkind] at h
    cases h
  | oneShot | delayed => exact ⟨rfl, rfl⟩

theorem fired_of_cron (h : e.kind.isOnce = false) (cron : String → DateTime → Option DateTime)
    (now : DateTime) :
    (e.fired cron now).status = e.status ∧
      (e.fired cron now).nextFire = computeNextFire cron e.kind now := by
  unfold ScheduleEntry.fired
  cases hkind : e.kind with
  | cron expression => exact ⟨rfl, rfl⟩
  | oneShot | delayed =>
    rw [hkind] at h
    cases h

/-- What the five operations do to an entry that stays. -/
theorem get_apply_cases (hget : (r.apply cron op).get id = some e') :
    (∃ save, op = .add e' save ∧ e'.id = id) ∨ r.get id = some e' ∨
      ∃ e, r.get id = some e ∧
        ((∃ save, op = .pause id save ∧ e'.status = .paused) ∨
          (∃ now save, op = .resume id now save ∧ e'.status = .active ∧
            e'.nextFire = computeNextFire cron e.kind now) ∨
          ∃ now save, op = .recordFired id now save ∧
            ((e'.status = .completed ∧ e.kind.isOnce = true) ∨
              (e'.status = e.status ∧ e.kind.isOnce = false ∧
                e'.nextFire = computeNextFire cron e.kind now))) := by
  cases op with
  | add entry save =>
    dsimp only [apply] at hget
    rw [get_add] at hget
    split at hget
    · rename_i hid
      cases hget
      exact .inl ⟨save, rfl, hid.symm⟩
    · exact .inr (.inl hget)
  | remove id' save => exact .inr (.inl (get_remove hget))
  | pause id' save =>
    rcases get_modify_cases hget with ⟨rfl, e, he, rfl⟩ | ⟨-, he⟩
    · exact .inr (.inr ⟨e, he, .inl ⟨save, rfl, rfl⟩⟩)
    · exact .inr (.inl he)
  | resume id' now save =>
    rcases get_modify_cases hget with ⟨rfl, e, he, rfl⟩ | ⟨-, he⟩
    · exact .inr (.inr ⟨e, he, .inr (.inl ⟨now, save, rfl, rfl, rfl⟩)⟩)
    · exact .inr (.inl he)
  | recordFired id' now save =>
    rcases get_modify_cases hget with ⟨rfl, e, he, rfl⟩ | ⟨-, he⟩
    · refine .inr (.inr ⟨e, he, .inr (.inr ⟨now, save, rfl, ?_⟩)⟩)
      cases honce : e.kind.isOnce with
      | true => exact .inl ⟨(fired_of_once honce cron now).1, rfl⟩
      | false => exact .inr ⟨(fired_of_cron honce cron now).1, rfl, (fired_of_cron honce cron now).2⟩
    · exact .inr (.inl he)

theorem apply_sound (h : r.Sound) (hkeeps : r.KeepsLifecycle cron op) :
    (r.apply cron op).Sound := by
  constructor
  intro id e' hget hactive
  rcases get_apply_cases hget with ⟨save, rfl, -⟩ | hsame | ⟨e, he, hcases⟩
  · exact hkeeps hactive
  · exact h.active id e' hsame hactive
  · rcases hcases with ⟨save, rfl, hpaused⟩ | ⟨now, save, rfl, -, hnext⟩ |
      ⟨now, save, rfl, ⟨hdone, -⟩ | ⟨hstatus, hcron, hnext⟩⟩
    · rw [hpaused] at hactive
      cases hactive
    · rw [hnext]
      exact (hkeeps e he).2
    · rw [hdone] at hactive
      cases hactive
    · rw [hnext]
      exact hkeeps e he (hstatus.symm.trans hactive) hcron

theorem lifecycleStep_of_keeps (h : r.Sound) (hkeeps : r.KeepsLifecycle cron op) :
    LifecycleStep r op (r.apply cron op) := by
  have hsound := apply_sound h hkeeps
  refine ⟨?_, ?_, ?_⟩
  · intro id e hget hactive
    exact (becomesReady_iff hget hactive).mpr (hsound.active id e hget hactive)
  · rintro id now save rfl e he - - -
    have hget := get_modify_self he save fun e =>
      { e with status := .active, nextFire := computeNextFire cron e.kind now }
    exact ⟨_, hget, rfl, (becomesReady_iff hget rfl).mpr (hkeeps e he).2⟩
  · intro id e e' he hterm hget
    rcases get_apply_cases hget with ⟨save, rfl, hid⟩ | hsame | ⟨e₀, he₀, hcases⟩
    · exact .inr ⟨e', save, rfl, hid⟩
    · rw [he] at hsame
      cases hsame
      exact .inl hterm
    · rw [he] at he₀
      cases he₀
      rcases hcases with ⟨save, rfl, -⟩ | ⟨now, save, rfl, -, -⟩ |
        ⟨now, save, rfl, ⟨hdone, -⟩ | ⟨hstatus, -, -⟩⟩
      · exact absurd hterm (Bool.not_eq_true _ ▸ hkeeps e he)
      · exact absurd hterm (Bool.not_eq_true _ ▸ (hkeeps e he).1)
      · left
        rw [hdone]
        rfl
      · left
        rw [hstatus]
        exact hterm

theorem keeps_of_lifecycleStep (h : LifecycleStep r op (r.apply cron op)) :
    r.KeepsLifecycle cron op := by
  have hterminal {e e' : ScheduleEntry} {id : String} (he : r.get id = some e)
      (hget : (r.apply cron op).get id = some e') (hlive : e'.status.isTerminal = false)
      (hadd : ∀ entry save, op ≠ .add entry save) : e.status.isTerminal = false := by
    rw [← Bool.not_eq_true]
    intro hterm
    rcases h.terminal id e e' he hterm hget with hterm' | ⟨entry, save, hop, -⟩
    · rw [hlive] at hterm'
      cases hterm'
    · exact hadd entry save hop
  have hready {e' : ScheduleEntry} {id : String} (hget : (r.apply cron op).get id = some e')
      (hactive : e'.status = .active) : e'.nextFire.isSome = true :=
    (becomesReady_iff hget hactive).mp (h.active id e' hget hactive)
  cases op with
  | add entry save =>
    intro hactive
    have hget : (r.add entry save).2.get entry.id = some entry := get_add.trans (if_pos rfl)
    exact hready hget hactive
  | remove id save => exact True.intro
  | pause id save =>
    intro e he
    exact hterminal he (get_modify_self he save _) rfl fun _ _ hop => nomatch hop
  | resume id now save =>
    intro e he
    have hget := get_modify_self he save fun e =>
      { e with status := .active, nextFire := computeNextFire cron e.kind now }
    exact ⟨hterminal he hget rfl fun _ _ hop => (nomatch hop), hready hget rfl⟩
  | recordFired id now save =>
    intro e he hactive hcron
    obtain ⟨hstatus, hnext⟩ := fired_of_cron hcron cron now
    have hget := get_modify_self he save (·.fired cron now)
    rw [← hnext]
    exact hready hget (hstatus.trans hactive)

end

end ScheduleRegistry

/-- In a sequence of operations every operation owes nothing to the entries exactly if every
operation keeps to the lifecycle. -/
theorem lifecycle_iff_keeps (cron : String → DateTime → Option DateTime) (r : ScheduleRegistry)
    (ops : List ScheduleOp) (h : r.Sound) :
    Along (scheduleStep cron) (fun r op => LifecycleStep r op (r.apply cron op)) r ops ↔
      Along (scheduleStep cron) (fun r op => r.KeepsLifecycle cron op) r ops := by
  have hrun : exec (scheduleStep cron) r ops = some (ops.foldl (ScheduleRegistry.apply cron) r) :=
    exec_total (ScheduleRegistry.apply cron) r ops
  refine Along.congr_of_good (I := ScheduleRegistry.Sound) ?_ ?_ hrun h
  · intro r op r' _ hsound
    exact ⟨ScheduleRegistry.keeps_of_lifecycleStep, ScheduleRegistry.lifecycleStep_of_keeps hsound⟩
  · intro r op r' hstep hsound hkeeps
    cases hstep
    exact ScheduleRegistry.apply_sound hsound hkeeps

private def delayedEntry : ScheduleEntry where
  id := "abcd1234"
  planPath := "/repo/plan.md"
  repoDir := "/repo"
  configDir := none
  verbose := 0
  kind := .delayed 60
  status := .active
  createdAt := 0
  lastFired := none
  nextFire := some 60000000000
  fireCount := 0
  label := none
  lastError := none

/-- A one-shot schedule is paused, resumed before its time, and fires. -/
theorem lifecycle_of_one_shot :
    Along (scheduleStep fun _ now => some (now + 300000000000))
      (fun r op => LifecycleStep r op (r.apply (fun _ now => some (now + 300000000000)) op)) .new
      [.add { delayedEntry with kind := .oneShot 60000000000 } (.ok ()), .pause "abcd1234" (.ok ()),
        .resume "abcd1234" 30000000000 (.ok ()), .recordFired "abcd1234" 60000000000 (.ok ())] :=
  (lifecycle_iff_keeps (fun _ now => some (now + 300000000000)) .new _
    ⟨fun _ _ hget => nomatch hget⟩).mpr (by decide)

/-- A delayed schedule that is paused and resumed never fires. -/
theorem delayed_lost_by_resume :
    ¬ ∀ (cron : String → DateTime → Option DateTime) (ops : List ScheduleOp),
      Along (scheduleStep cron) (fun r op => LifecycleStep r op (r.apply cron op)) .new ops := by
  intro hclaim
  have hrun := hclaim (fun _ now => some (now + 300000000000))
    [.add delayedEntry (.ok ()), .pause "abcd1234" (.ok ()),
      .resume "abcd1234" 30000000000 (.ok ())]
  rw [Along.cons rfl, Along.cons rfl] at hrun
  obtain ⟨-, -, hresume⟩ := hrun
  obtain ⟨e, hget, hactive, hnext⟩ := exists_of_any
    (o := (((ScheduleRegistry.new.add delayedEntry (.ok ())).2.pause "abcd1234" (.ok ())).2.resume
      (fun _ now => some (now + 300000000000)) "abcd1234" 30000000000 (.ok ())).2.get "abcd1234")
    (P := fun e => e.status = .active ∧ e.nextFire = none) (by decide)
  have hready := (ScheduleRegistry.becomesReady_iff hget hactive).mp
    (hresume.head.active "abcd1234" e hget hactive)
  rw [hnext] at hready
  cases hready

end GreaterWill
