import GreaterWill.Daemon.ScheduleLoop
import GreaterWill.Daemon.ScheduleSave
import GreaterWill.Lib.Text

/-!
# Durations

The delay of a schedule, from the text of the command line to the date in the list of schedules:
`parse_duration_suffix` of `daemon/schedule.rs`, and of `daemon/server.rs` the handler of
`AddSchedule` and `schedule_entry_to_info`. The text is split at a byte, the product is taken in
64 bits, and the seconds are cast to a signed number before they are added to a date. What can
panic comes to `panics`, or to `none` where there is no error. The `chrono` crate is a parameter,
with the two functions that are used of it as they are documented.
-/

namespace GreaterWill

/-- What a fallible function that can panic comes to. -/
inductive Outcome (α : Type) where
  | value (a : α)
  | error (message : String)
  | panics
  deriving DecidableEq

/-! ## Parsing a duration -/

/-- The seconds of a unit. -/
def unitSecs : Char → Option UInt64
  | 's' => some 1
  | 'm' => some 60
  | 'h' => some 3600
  | 'd' => some 86400
  | _ => none

/-- `parse_duration_suffix`. Multiplication is checked for overflow in a debug build only. -/
def parseDurationSuffix (overflowChecks : Bool) (input : String) : Outcome UInt64 :=
  let input := Text.trim input.toList
  match input.getLast? with
  | none => .error "empty duration string"
  | some suffix =>
    -- `split_at` one byte before the end panics inside of a character
    if suffix.utf8Size ≠ 1 then .panics
    else
      let numStr := input.dropLast
      match Text.parseU64 numStr with
      | none => .error s!"invalid duration number: '{String.ofList numStr}'"
      | some value =>
        match unitSecs suffix with
        | none => .error s!"unknown duration suffix '{suffix}': expected s, m, h, or d"
        | some multiplier =>
          if overflowChecks && decide (UInt64.size ≤ value.toNat * multiplier.toNat) then .panics
          else .value (value * multiplier)

/-- The number before the last character. -/
def durationNumber (input : String) : Option Nat :=
  Text.parseDigits (Text.trim input.toList).dropLast

/-- The unit that the last character stands for. -/
def durationUnit (input : String) : Option UInt64 := (Text.trim input.toList).getLast?.bind unitSecs

/-- An error, or the number times the seconds of the unit. -/
def DurationExact (input : String) : Outcome UInt64 → Prop
  | .value secs => ∃ number unit, durationNumber input = some number ∧
      durationUnit input = some unit ∧ secs.toNat = number * unit.toNat
  | .error _ => True
  | .panics => False

/-- The last character takes one byte, and the product of a number and a unit that are both parsed
fits in 64 bits. -/
structure DurationFits (input : String) : Prop where
  suffix : ∀ c ∈ (Text.trim input.toList).getLast?, c.utf8Size = 1
  product : ∀ number unit, durationNumber input = some number → number < UInt64.size →
    durationUnit input = some unit → number * unit.toNat < UInt64.size

/-! ## Adding a delay to a date -/

/-- `i64::MAX / 1_000`, the bound of `chrono::Duration::seconds`. -/
def MAX_DURATION_SECS : Nat := 9223372036854775

/-- What is used of `chrono`; `none` is a panic. Dates and durations are in nanoseconds. -/
structure Chrono where
  /-- `DateTime::<Utc>::MIN_UTC`. -/
  minUtc : DateTime
  /-- `DateTime::<Utc>::MAX_UTC`. -/
  maxUtc : DateTime
  /-- `chrono::Duration::seconds`. -/
  seconds : Int64 → Option Int
  /-- The addition of a duration to a date. -/
  add : DateTime → Int → Option DateTime
  seconds_eq : ∀ secs, seconds secs =
    if secs.toInt.natAbs ≤ MAX_DURATION_SECS then some (secs.toInt * 1000000000) else none
  add_eq : ∀ t d, add t d = if minUtc ≤ t + d ∧ t + d ≤ maxUtc then some (t + d) else none

namespace Chrono

/-- The dates of `chrono`, of the years from -262143 to 262142. -/
def utc : Chrono where
  minUtc := -8334601228800000000000
  maxUtc := 8210266876799999999999
  seconds secs :=
    if secs.toInt.natAbs ≤ MAX_DURATION_SECS then some (secs.toInt * 1000000000) else none
  add t d :=
    if -8334601228800000000000 ≤ t + d ∧ t + d ≤ 8210266876799999999999 then some (t + d) else none
  seconds_eq _ := rfl
  add_eq _ _ := rfl

/-- `t + chrono::Duration::seconds(delay_secs as i64)`. -/
def addSecs (chrono : Chrono) (t : DateTime) (delaySecs : UInt64) : Option DateTime :=
  (chrono.seconds delaySecs.toInt64).bind (chrono.add t)

end Chrono

/-- The date that many seconds later. -/
def DateTime.after (t : DateTime) (delaySecs : UInt64) : DateTime :=
  t + delaySecs.toNat * 1000000000

/-- The delay is a duration and leads to a date. -/
structure DelayFits (chrono : Chrono) (t : DateTime) (delaySecs : UInt64) : Prop where
  duration : delaySecs.toNat ≤ MAX_DURATION_SECS
  date : chrono.minUtc ≤ DateTime.after t delaySecs ∧ DateTime.after t delaySecs ≤ chrono.maxUtc

/-! ## The two functions of the server -/

/-- `AddSchedule`. -/
structure AddRequest where
  planPath : PathBuf
  repoDir : PathBuf
  kind : ScheduleKind
  configDir : Option PathBuf
  verbose : UInt8
  label : Option String

inductive AddResponse where
  | scheduleAdded (id : String) (nextFire : Option String)
  | error (code : ErrorCode) (message : String)
  deriving DecidableEq

/-- What the handler asks: the file system, the `cron` crate and `to_rfc3339`. -/
structure ScheduleEnv where
  host : Host
  isDir : PathBuf → Bool
  /-- `cron::Schedule::from_str` accepts the expression. -/
  validCron : String → Bool
  cron : String → DateTime → Option DateTime
  toRfc3339 : DateTime → String

/-- `validate_config_dir`. -/
def validateConfigDir (env : ScheduleEnv) (configDir : PathBuf) : Except String PathBuf :=
  if PathBuf.Component.parentDir ∈ PathBuf.components configDir then
    .error "config_dir contains '..' component"
  else
    match env.host.canonicalize configDir with
    | none => .error s!"config_dir does not exist: {configDir}"
    | some canonical =>
      if env.isDir canonical then .ok canonical
      else .error s!"config_dir is not a directory: {canonical}"

/-- The paths of a request, validated, or the message about the first one that is not valid. -/
def AddRequest.validPaths (env : ScheduleEnv) (req : AddRequest) :
    Except String (PathBuf × PathBuf × Option PathBuf) :=
  match validateRepoDir env.host req.repoDir with
  | .error e => .error s!"invalid repo_dir: {e}"
  | .ok repo =>
    match validatePlanPath env.host req.planPath repo with
    | .error e => .error s!"invalid plan_path: {e}"
    | .ok plan =>
      match req.configDir with
      | none => .ok (repo, plan, none)
      | some dir =>
        match validateConfigDir env dir with
        | .error e => .error s!"invalid config_dir: {e}"
        | .ok config => .ok (repo, plan, some config)

/-- The next time of a new schedule, which can panic. -/
def initialNextFire (chrono : Chrono) (env : ScheduleEnv) (kind : ScheduleKind) (now : DateTime) :
    Option (Option DateTime) :=
  match kind with
  | .delayed delaySecs => (chrono.addSecs now delaySecs).map some
  | kind => some (computeNextFire env.cron kind now)

/-- The expression of a cron schedule that is not valid. -/
def ScheduleKind.invalidCron (env : ScheduleEnv) : ScheduleKind → Option String
  | .cron expression => if env.validCron expression then none else some expression
  | .oneShot _ | .delayed _ => none

/-- The handler of `AddSchedule`, with the id that `generate_id` returns and what saving returns. -/
def addSchedule (chrono : Chrono) (env : ScheduleEnv) (r : ScheduleRegistry) (req : AddRequest)
    (id : String) (now : DateTime) (save : Except String Unit) :
    Option (AddResponse × ScheduleRegistry) :=
  match req.validPaths env with
  | .error message => some (.error .invalidRequest message, r)
  | .ok (repo, plan, config) =>
    match req.kind.invalidCron env with
    | some expression =>
      some (.error .invalidRequest s!"invalid cron expression: {expression}", r)
    | none =>
      match initialNextFire chrono env req.kind now with
      | none => none
      | some nextFire =>
        let entry : ScheduleEntry := {
          id
          planPath := plan
          repoDir := repo
          configDir := config
          verbose := req.verbose
          kind := req.kind
          status := .active
          createdAt := now
          lastFired := none
          nextFire
          fireCount := 0
          label := req.label
          lastError := none }
        let added := r.add entry save
        let response :=
          match added.1 with
          | .ok id => .scheduleAdded id (nextFire.map env.toRfc3339)
          | .error message => .error .internalError message
        some (response, added.2)

inductive ScheduleKindInfo where
  | cron (expression : String)
  | oneShot (fireAt : String)
  | delayed (firesAt : String)
  deriving DecidableEq

structure ScheduleInfo where
  id : String
  planPath : PathBuf
  repoDir : PathBuf
  kind : ScheduleKindInfo
  status : ScheduleStatus
  nextFire : Option String
  lastFired : Option String
  fireCount : UInt32
  label : Option String
  deriving DecidableEq

def scheduleEntryToInfo (chrono : Chrono) (toRfc3339 : DateTime → String) (entry : ScheduleEntry) :
    Option ScheduleInfo :=
  let kind : Option ScheduleKindInfo :=
    match entry.kind with
    | .cron expression => some (.cron expression)
    | .oneShot fireAt => some (.oneShot (toRfc3339 fireAt))
    | .delayed delaySecs =>
      (chrono.addSecs entry.createdAt delaySecs).map fun firesAt => .delayed (toRfc3339 firesAt)
  kind.map fun kind => {
    id := entry.id
    planPath := entry.planPath
    repoDir := entry.repoDir
    kind
    status := entry.status
    nextFire := entry.nextFire.map toRfc3339
    lastFired := entry.lastFired.map toRfc3339
    fireCount := entry.fireCount
    label := entry.label }

/-- The request is rejected, or the entry of the new schedule is to fire at the exact time. -/
def AddExact (req : AddRequest) (delaySecs : UInt64) (id : String) (now : DateTime)
    (res : Option (AddResponse × ScheduleRegistry)) : Prop :=
  ∃ response r, res = some (response, r) ∧
    ((∃ message, response = .error .invalidRequest message) ∨
      ∃ e, r.get id = some e ∧ e.kind = req.kind ∧ e.nextFire = some (now.after delaySecs))

/-- The list shows the exact time, whatever text a date has. -/
def InfoExact (chrono : Chrono) (entry : ScheduleEntry) (delaySecs : UInt64) : Prop :=
  ∀ toRfc3339, ∃ info, scheduleEntryToInfo chrono toRfc3339 entry = some info ∧
    info.kind = .delayed (toRfc3339 (entry.createdAt.after delaySecs))

section
variable {chrono : Chrono} {env : ScheduleEnv} {r : ScheduleRegistry} {req : AddRequest}
  {input : String} {overflowChecks : Bool} {delaySecs : UInt64} {t now : DateTime} {id : String}
  {save : Except String Unit} {c : Char} {unit value : UInt64}

/-! ## The product -/

theorem Text.parseU64_eq_some {s : List Char} :
    Text.parseU64 s = some value ↔ Text.parseDigits s = some value.toNat := by
  unfold Text.parseU64
  rw [Option.map_eq_some_iff]
  constructor
  · rintro ⟨n, hn, rfl⟩
    obtain ⟨hdigits, hlt⟩ := Option.filter_eq_some_iff.mp hn
    rw [hdigits, UInt64.toNat_ofNat_of_lt' (of_decide_eq_true hlt)]
  · intro hdigits
    refine ⟨value.toNat, ?_, UInt64.ofNat_toNat⟩
    rw [hdigits]
    exact Option.filter_eq_some_iff.mpr ⟨rfl, decide_eq_true value.toNat_lt⟩

theorem toNat_mul_eq_iff :
    (value * unit).toNat = value.toNat * unit.toNat ↔
      value.toNat * unit.toNat < UInt64.size := by
  rw [UInt64.toNat_mul]
  exact Nat.mod_eq_iff_lt (by decide)

/-- A number and a unit that are parsed: the product fits, or it panics or wraps. -/
theorem durationExact_product (hnumber : durationNumber input = some value.toNat)
    (hunit : durationUnit input = some unit) :
    DurationExact input
        (if overflowChecks && decide (UInt64.size ≤ value.toNat * unit.toNat) then .panics
          else .value (value * unit)) ↔
      value.toNat * unit.toNat < UInt64.size := by
  have hexact : DurationExact input (.value (value * unit)) ↔
      value.toNat * unit.toNat < UInt64.size := by
    rw [← toNat_mul_eq_iff]
    constructor
    · intro ⟨number, unit', hnumber', hunit', hsecs⟩
      rw [hnumber] at hnumber'
      rw [hunit] at hunit'
      cases hnumber'
      cases hunit'
      exact hsecs
    · exact fun hsecs => ⟨value.toNat, unit, hnumber, hunit, hsecs⟩
  split
  · rename_i hover
    obtain ⟨-, hle⟩ := Bool.and_eq_true_iff.mp hover
    exact ⟨False.elim, fun hlt => Nat.not_le_of_lt hlt (of_decide_eq_true hle)⟩
  · exact hexact

/-- A duration is parsed exactly, or refused, exactly if its last character takes one byte and the
product fits in 64 bits. -/
theorem durationExact_iff :
    DurationExact input (parseDurationSuffix overflowChecks input) ↔ DurationFits input := by
  unfold parseDurationSuffix
  dsimp only
  cases hlast : (Text.trim input.toList).getLast? with
  | none =>
    have hunit : durationUnit input = none := by
      unfold durationUnit
      rw [hlast]
      rfl
    refine iff_of_true True.intro ⟨?_, ?_⟩
    · intro c hc
      rw [hlast] at hc
      cases hc
    · intro number unit _ _ h
      rw [hunit] at h
      cases h
  | some c =>
    have hunit : durationUnit input = unitSecs c := by
      unfold durationUnit
      rw [hlast]
      rfl
    dsimp only
    by_cases hbyte : c.utf8Size = 1
    case neg =>
      rw [if_pos hbyte]
      exact iff_of_false id fun hfits => hbyte (hfits.suffix c hlast)
    have hsuffix : ∀ c' ∈ (Text.trim input.toList).getLast?, c'.utf8Size = 1 := by
      intro c' hc'
      rw [hlast] at hc'
      cases hc'
      exact hbyte
    rw [if_neg (not_not_intro hbyte)]
    cases hvalue : Text.parseU64 (Text.trim input.toList).dropLast with
    | none =>
      refine iff_of_true True.intro ⟨hsuffix, ?_⟩
      intro number unit hnumber hlt _
      have hparsed : Text.parseU64 (Text.trim input.toList).dropLast =
          some (UInt64.ofNat number) := by
        rw [Text.parseU64_eq_some, UInt64.toNat_ofNat_of_lt' hlt]
        exact hnumber
      rw [hvalue] at hparsed
      cases hparsed
    | some value =>
      have hnumber : durationNumber input = some value.toNat := Text.parseU64_eq_some.mp hvalue
      cases hsecs : unitSecs c with
      | none =>
        refine iff_of_true True.intro ⟨hsuffix, ?_⟩
        intro number unit _ _ h
        rw [hunit, hsecs] at h
        cases h
      | some unit =>
        refine (durationExact_product hnumber (hunit.trans hsecs)).trans ⟨?_, ?_⟩
        · intro hlt
          refine ⟨hsuffix, ?_⟩
          intro number unit' hnumber' _ hunit'
          rw [hnumber] at hnumber'
          rw [hunit, hsecs] at hunit'
          cases hnumber'
          cases hunit'
          exact hlt
        · intro hfits
          exact hfits.product _ _ hnumber value.toNat_lt (hunit.trans hsecs)

/-! ## The sum -/

/-- The cast keeps the seconds up to `i64::MAX` and makes the others negative. -/
theorem toInt_toInt64 :
    delaySecs.toInt64.toInt =
      if delaySecs.toNat < 9223372036854775808 then (delaySecs.toNat : Int)
      else delaySecs.toNat - 18446744073709551616 := by
  have hcond := BitVec.toInt_eq_toNat_cond delaySecs.toBitVec
  rw [show delaySecs.toInt64.toInt = delaySecs.toBitVec.toInt from rfl, hcond]
  have hnat : delaySecs.toBitVec.toNat = delaySecs.toNat := rfl
  rw [hnat]
  split <;> split <;> omega

/-- The sum is exact exactly if the delay is a duration and leads to a date. -/
theorem Chrono.addSecs_eq_after_iff :
    chrono.addSecs t delaySecs = some (t.after delaySecs) ↔ DelayFits chrono t delaySecs := by
  unfold addSecs
  rw [chrono.seconds_eq, toInt_toInt64]
  by_cases hcast : delaySecs.toNat < 9223372036854775808
  case neg =>
    -- a negative number of seconds, if it is a duration at all
    rw [if_neg hcast]
    have hlarge : ¬ DelayFits chrono t delaySecs := by
      intro hfits
      have := hfits.duration
      unfold MAX_DURATION_SECS at this
      omega
    refine iff_of_false ?_ hlarge
    intro hsum
    obtain ⟨d, hd, hadd⟩ := Option.bind_eq_some_iff.mp hsum
    rw [chrono.add_eq] at hadd
    split at hd
    · cases hd
      split at hadd
      · have hsame : (delaySecs.toNat - 18446744073709551616 : Int) * 1000000000 =
            delaySecs.toNat * 1000000000 := Int.add_left_cancel (Option.some.inj hadd)
        omega
      · cases hadd
    · cases hd
  rw [if_pos hcast, Int.natAbs_natCast]
  split
  · rename_i hle
    rw [Option.bind_some, chrono.add_eq]
    constructor
    · intro hadd
      split at hadd
      · exact ⟨hle, ‹_›⟩
      · cases hadd
    · exact fun hfits => if_pos hfits.date
  · rename_i hgt
    refine iff_of_false ?_ fun hfits => hgt hfits.duration
    intro hsum
    cases hsum

/-- What an entry that was added owes. -/
theorem addExact_added {entry : ScheduleEntry} {response : AddResponse}
    (hresponse : ∀ message, response ≠ .error .invalidRequest message)
    (hkind : entry.kind = req.kind) :
    AddExact req delaySecs entry.id now (some (response, (r.add entry save).2)) ↔
      entry.nextFire = some (now.after delaySecs) := by
  have hget : (r.add entry save).2.get entry.id = some entry :=
    ScheduleRegistry.get_add.trans (if_pos rfl)
  constructor
  · intro ⟨response', r', hres, hexact⟩
    cases hres
    rcases hexact with ⟨message, hmessage⟩ | ⟨e, he, -, hnext⟩
    · exact absurd hmessage (hresponse message)
    · rw [hget] at he
      cases he
      exact hnext
  · exact fun hnext => ⟨response, _, rfl, .inr ⟨entry, hget, hkind, hnext⟩⟩

/-- A new schedule is rejected or fires at the exact time, exactly if its delay leads to a date when
the paths of the request are valid. -/
theorem addExact_iff (hkind : req.kind = .delayed delaySecs) :
    AddExact req delaySecs id now (addSchedule chrono env r req id now save) ↔
      ((req.validPaths env).isOk = true → DelayFits chrono now delaySecs) := by
  unfold addSchedule
  cases hpaths : req.validPaths env with
  | error message =>
    refine iff_of_true ⟨_, _, rfl, .inl ⟨_, rfl⟩⟩ ?_
    intro hok
    cases hok
  | ok paths =>
    rw [← Chrono.addSecs_eq_after_iff]
    dsimp only
    rw [hkind]
    dsimp only [ScheduleKind.invalidCron, initialNextFire]
    cases hsum : chrono.addSecs now delaySecs with
    | none =>
      refine iff_of_false ?_ ?_
      · intro ⟨_, _, hres, _⟩
        cases hres
      · intro hsome
        cases hsome rfl
    | some t =>
      refine Iff.trans (addExact_added (fun message h => ?_) hkind.symm) ⟨fun h _ => h, (· rfl)⟩
      cases save <;> cases h

/-- The list shows the exact time of a delayed schedule exactly if its delay leads to a date. -/
theorem infoExact_iff {entry : ScheduleEntry} (hkind : entry.kind = .delayed delaySecs) :
    InfoExact chrono entry delaySecs ↔ DelayFits chrono entry.createdAt delaySecs := by
  rw [← Chrono.addSecs_eq_after_iff]
  unfold InfoExact scheduleEntryToInfo
  rw [hkind]
  dsimp only
  constructor
  · intro h
    -- a text that tells the exact date from every other one
    obtain ⟨info, hinfo, hfires⟩ := h fun t =>
      if t = entry.createdAt.after delaySecs then "exact" else "other"
    obtain ⟨kind, hsome, rfl⟩ := Option.map_eq_some_iff.mp hinfo
    obtain ⟨t, ht, rfl⟩ := Option.map_eq_some_iff.mp hsome
    rw [ht]
    have htext := ScheduleKindInfo.delayed.inj hfires
    rw [if_pos rfl] at htext
    by_contra hne
    rw [if_neg fun h => hne (congrArg some h)] at htext
    exact absurd htext (by decide)
  · intro hsum toRfc3339
    rw [hsum]
    exact ⟨_, rfl, rfl⟩

end

/-- A duration is parsed exactly or refused; the handler of `AddSchedule` refuses the request or
computes the exact date; the list of schedules shows it: each of the three exactly if nothing on its
way is cut, wrapped or out of range. -/
theorem durations_exact_iff (chrono : Chrono) (env : ScheduleEnv) (overflowChecks : Bool)
    (input : String) (r : ScheduleRegistry) (req : AddRequest) (entry : ScheduleEntry)
    (delaySecs : UInt64) (id : String) (now : DateTime) (save : Except String Unit) :
    (DurationExact input (parseDurationSuffix overflowChecks input) ↔ DurationFits input) ∧
      (AddExact { req with kind := .delayed delaySecs } delaySecs id now
          (addSchedule chrono env r { req with kind := .delayed delaySecs } id now save) ↔
        ((req.validPaths env).isOk = true → DelayFits chrono now delaySecs)) ∧
      (InfoExact chrono { entry with kind := .delayed delaySecs } delaySecs ↔
        DelayFits chrono entry.createdAt delaySecs) :=
  ⟨durationExact_iff, addExact_iff rfl, infoExact_iff rfl⟩

/-- In a release build this number of minutes is 44 seconds. -/
theorem duration_wraps :
    ¬ ∀ (overflowChecks : Bool) (input : String),
      DurationExact input (parseDurationSuffix overflowChecks input) := by
  intro hclaim
  have hwrap : parseDurationSuffix false "307445734561825861m" = .value 44 := by decide +kernel
  have hexact := hclaim false "307445734561825861m"
  rw [hwrap] at hexact
  obtain ⟨number, unit, hnumber, hunit, hsecs⟩ := hexact
  have hminutes : durationNumber "307445734561825861m" = some 307445734561825861 := by
    decide +kernel
  have hsixty : durationUnit "307445734561825861m" = some 60 := by decide +kernel
  rw [hminutes] at hnumber
  rw [hsixty] at hunit
  cases hnumber
  cases hunit
  exact absurd hsecs (by decide)

example : parseDurationSuffix false "5µ" = .panics := by decide +kernel
example : Chrono.utc.addSecs 0 18446744073709551615 = some (-1000000000) := by decide

end GreaterWill
