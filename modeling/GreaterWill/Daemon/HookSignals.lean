import GreaterWill.Commands.Elden
import GreaterWill.Daemon.RunMonitorSpec

/-!
# The hooks and the monitor that reads their signals

The hooks of a session write signal files and the daemon's monitor polls them. The monitor reads a
stop signal before a session-end one, and only the latter says whether the arc is complete: a
completion that a session-end event reported is noted at the next poll unless it was written over,
or a stop signal stands before it.
-/

namespace GreaterWill

/-- The files of the repository and its monitor. -/
structure HookWorld where
  files : Files
  monitor : DaemonRunMonitor

inductive HookAction where
  | event (e : HookEvent)
  /-- The monitor polls the signals. -/
  | tick (w : Surroundings)

section
variable (probes : Probes)

namespace HookWorld

/-- A hook event is handled, or the monitor polls; a stop-failure signal that it finds clears the
signals. -/
def act (s : HookWorld) : HookAction → HookWorld
  | .event e => { s with files := executeEvent probes.serde s.monitor.repoDir e s.files }
  | .tick w =>
    let w := { w with files := s.files }
    { files :=
        if (s.monitor.readSignal probes w "stop-failure.json").isSome then
          clearSignalsFrom s.monitor.repoDir s.files
        else s.files
      monitor := s.monitor.checkSignals probes w }

def run (s : HookWorld) (actions : List HookAction) : HookWorld := actions.foldl (act probes) s

/-- The signal in a file. -/
def signalIn (s : HookWorld) (name : String) : Option Json :=
  jsonAt probes.serde s.files (signalPath s.monitor.repoDir name)

end HookWorld

/-- A text is read as a value with the members of the one it was written for. -/
def SerdeValue.ReadsBack (serde : SerdeValue) (v : Json) : Prop :=
  ∃ v', serde.fromStr (serde.toPretty v) = some v' ∧ ∀ k, v'.get k = v.get k

/-- The signal says that the arc is complete. -/
def saysComplete (signal : Json) : Prop := signal.get "is_complete" = some (.bool true)

/-- After a session-end event, the events `es` leave its report to be read: none of them is a stop,
no stop signal was there that does not say the same, and the last session end among them reports
the same. -/
structure HookWorld.Reported (s : HookWorld) (es : List HookEvent) : Prop where
  noStop : ∀ e ∈ es, e.kind ≠ .stop
  stopSignal : ∀ signal ∈ s.signalIn probes "session-stop.json", saysComplete signal
  sessionEnd : s.signalIn probes "session-stop.json" = none →
    ∀ e ∈ (es.filter (·.kind = .sessionEnd)).getLast?,
      e.isComplete probes.serde s.monitor.repoDir = true

end

/-! ## The signal files -/

section
variable {probes : Probes} {s : HookWorld} {e : HookEvent} {es : List HookEvent} {name : String}

theorem signalPath_inj (baseDir : PathBuf) (k k' : HookKind) :
    signalPath baseDir k.fileName = signalPath baseDir k'.fileName ↔ k = k' := by
  have hrelative (k : HookKind) : PathBuf.isAbsolute k.fileName = false := by
    cases k <;> rfl
  unfold signalPath
  rw [PathBuf.join_inj (hrelative k) (hrelative k')]
  constructor
  · cases k <;> cases k' <;> simp [HookKind.fileName]
  · rintro rfl
    rfl

theorem get_signal_of_ne (serde : SerdeValue) (cwd : PathBuf) (hkind : e.kind ≠ .sessionEnd) :
    (e.signal serde cwd).get "is_complete" = none := by
  unfold HookEvent.signal
  cases hk : e.kind with
  | sessionEnd => exact absurd hk hkind
  | stop | stopFailure | permission =>
    dsimp only
    rw [Json.get_object]
    apply Dict.lookup_ofList_eq_none
    simp

theorem get_signal_sessionEnd (serde : SerdeValue) (cwd : PathBuf) (hkind : e.kind = .sessionEnd) :
    (e.signal serde cwd).get "is_complete" = some (.bool (e.isComplete serde cwd)) := by
  unfold HookEvent.signal
  rw [hkind]
  dsimp only
  rw [Json.get_object]
  apply Dict.lookup_ofList_of_mem
  · simp
  · simp

/-- The signals after an event. -/
theorem signalIn_event (hread : probes.serde.ReadsBack (e.signal probes.serde s.monitor.repoDir))
    (k : HookKind) :
    if e.kind = k then
      ∃ v, (s.act probes (.event e)).signalIn probes k.fileName = some v ∧
        ∀ key, v.get key = (e.signal probes.serde s.monitor.repoDir).get key
    else (s.act probes (.event e)).signalIn probes k.fileName = s.signalIn probes k.fileName := by
  unfold HookWorld.signalIn jsonAt Files.readToString
  dsimp only [HookWorld.act, executeEvent]
  rw [Dict.lookup_insert_eq_ite]
  by_cases hkind : e.kind = k
  · obtain ⟨v, hv, hget⟩ := hread
    rw [if_pos hkind, if_pos ((signalPath_inj _ k e.kind).mpr hkind.symm)]
    exact ⟨v, hv, hget⟩
  · rw [if_neg hkind, if_neg fun h => hkind ((signalPath_inj _ k e.kind).mp h).symm]

theorem run_events_monitor (probes : Probes) (s : HookWorld) (es : List HookEvent) :
    (s.run probes (es.map .event)).monitor = s.monitor := by
  induction es generalizing s with
  | nil => rfl
  | cons e es ih => exact ih _

/-- After events the signal of a kind is that of the last one of the kind, or the one before. -/
theorem signalIn_events
    (hread : ∀ e ∈ es, probes.serde.ReadsBack (e.signal probes.serde s.monitor.repoDir))
    (k : HookKind) :
    match (es.filter (·.kind = k)).getLast? with
    | some e => ∃ v, (s.run probes (es.map .event)).signalIn probes k.fileName = some v ∧
        ∀ key, v.get key = (e.signal probes.serde s.monitor.repoDir).get key
    | none => (s.run probes (es.map .event)).signalIn probes k.fileName =
        s.signalIn probes k.fileName := by
  induction es using List.reverseRecOn with
  | nil => rfl
  | append_singleton es e ih =>
    obtain ⟨hes, he⟩ := List.forall_mem_append.mp hread
    have hstep := signalIn_event (s := s.run probes (es.map .event)) (e := e)
      (by rw [run_events_monitor]; exact he e (List.mem_singleton_self e)) k
    have hrun : s.run probes ((es ++ [e]).map .event) =
        (s.run probes (es.map .event)).act probes (.event e) := by
      rw [List.map_append, HookWorld.run, List.foldl_append]
      rfl
    rw [hrun, List.filter_append, List.filter_singleton]
    by_cases hkind : e.kind = k
    · rw [if_pos hkind] at hstep
      rw [decide_eq_true hkind, Bool.cond_true, List.getLast?_append]
      dsimp only [List.getLast?_singleton, Option.some_or]
      rwa [run_events_monitor] at hstep
    · rw [if_neg hkind] at hstep
      rw [decide_eq_false hkind, Bool.cond_false, List.append_nil, hstep]
      exact ih hes

/-- Whether a completion is noted after a poll. -/
theorem completionDetectedAt_checkSignals (m : DaemonRunMonitor) (w : Surroundings) :
    (m.checkSignals probes w).completionDetectedAt.isSome = true ↔
      m.completionDetectedAt.isSome = true ∨
        ∃ signal, (m.readSignal probes w "session-stop.json").or
          (m.readSignal probes w "session-end.json") = some signal ∧ saysComplete signal := by
  have hpermission (m : DaemonRunMonitor) :
      (m.checkPermissionPending w).completionDetectedAt = m.completionDetectedAt := by
    rw [DaemonRunMonitor.checkPermissionPending]
    split <;> rfl
  have hfailure (m : DaemonRunMonitor) :
      (m.checkStopFailureSignal probes w).completionDetectedAt = m.completionDetectedAt := by
    rw [DaemonRunMonitor.checkStopFailureSignal]
    split
    · rfl
    · obtain ⟨k, heq, -⟩ := m.requestKill_spec w _ _
      rw [heq]
  rw [DaemonRunMonitor.checkSignals, hpermission, hfailure, DaemonRunMonitor.checkStopSignal]
  generalize (m.readSignal probes w "session-stop.json").or
    (m.readSignal probes w "session-end.json") = signal
  split
  · next hcomplete =>
    obtain ⟨signal, hsignal, hget⟩ := Option.bind_eq_some_iff.mp hcomplete
    exact ⟨fun _ => .inr ⟨signal, hsignal, hget⟩, fun _ => rfl⟩
  · next hnot =>
    refine ⟨.inl, ?_⟩
    rintro (hnoted | ⟨signal, rfl, hcomplete⟩)
    · exact hnoted
    · exact absurd hcomplete (hnot ·)

theorem repoDir_act (a : HookAction) : (s.act probes a).monitor.repoDir = s.monitor.repoDir := by
  cases a with
  | event e => rfl
  | tick w =>
    obtain ⟨c, k, heq, -, -⟩ := s.monitor.checkSignals_spec probes { w with files := s.files }
    dsimp only [HookWorld.act]
    rw [heq]

theorem repoDir_run (probes : Probes) (s : HookWorld) (actions : List HookAction) :
    (s.run probes actions).monitor.repoDir = s.monitor.repoDir := by
  induction actions generalizing s with
  | nil => rfl
  | cons a actions ih => exact (ih _).trans (repoDir_act a)

/-- The first signal the monitor finds after a session end that reported a complete arc. -/
theorem reported_iff (hend : e.kind = .sessionEnd)
    (hcomplete : e.isComplete probes.serde s.monitor.repoDir = true)
    (hread : ∀ e' ∈ e :: es, probes.serde.ReadsBack (e'.signal probes.serde s.monitor.repoDir)) :
    (∃ signal, ((s.run probes ((e :: es).map .event)).signalIn probes "session-stop.json").or
        ((s.run probes ((e :: es).map .event)).signalIn probes "session-end.json") = some signal ∧
        saysComplete signal) ↔ s.Reported probes es := by
  have hstop := signalIn_events hread .stop
  have hsession := signalIn_events hread .sessionEnd
  have hfilter : (e :: es).filter (·.kind = .stop) = es.filter (·.kind = .stop) :=
    List.filter_cons_of_neg (by rw [hend]; decide)
  have hfilter' : (e :: es).filter (·.kind = .sessionEnd) =
      e :: es.filter (·.kind = .sessionEnd) :=
    List.filter_cons_of_pos (by rw [hend]; decide)
  rw [hfilter] at hstop
  rw [hfilter', List.getLast?_cons] at hsession
  dsimp only [HookKind.fileName] at hstop hsession
  cases hlast : (es.filter (·.kind = .stop)).getLast? with
  | some stop =>
    have hmem : stop ∈ es.filter (·.kind = .stop) := List.mem_of_getLast? hlast
    obtain ⟨hes, hkind⟩ := List.mem_filter.mp hmem
    have hkind : stop.kind = .stop := of_decide_eq_true hkind
    rw [hlast] at hstop
    obtain ⟨v, hv, hget⟩ := hstop
    rw [hv, Option.some_or]
    constructor
    · rintro ⟨signal, hsignal, hsays⟩
      cases hsignal
      rw [saysComplete, hget, get_signal_of_ne _ _ (by rw [hkind]; decide)] at hsays
      cases hsays
    · intro hreported
      exact absurd hkind (hreported.noStop stop hes)
  | none =>
    have hnone : ∀ e' ∈ es, e'.kind ≠ .stop := by
      intro e' he' hkind
      have hmem : e' ∈ es.filter (·.kind = .stop) :=
        List.mem_filter.mpr ⟨he', decide_eq_true hkind⟩
      rw [List.getLast?_eq_none_iff.mp hlast] at hmem
      cases hmem
    rw [hlast] at hstop
    dsimp only at hstop
    rw [hstop]
    cases hbefore : s.signalIn probes "session-stop.json" with
    | some signal =>
      rw [Option.some_or]
      constructor
      · rintro ⟨signal', hsignal, hsays⟩
        cases hsignal
        refine ⟨hnone, ?_, fun hnot => ?_⟩
        · rw [hbefore]
          intro signal' hsignal
          cases hsignal
          exact hsays
        · rw [hbefore] at hnot
          cases hnot
      · intro hreported
        exact ⟨signal, rfl, hreported.stopSignal signal hbefore⟩
    | none =>
      obtain ⟨v, hv, hget⟩ := hsession
      rw [Option.none_or, hv]
      have hlastKind : ((es.filter (·.kind = .sessionEnd)).getLast?.getD e).kind =
          .sessionEnd := by
        cases hend' : (es.filter (·.kind = .sessionEnd)).getLast? with
        | none => exact hend
        | some last =>
          exact of_decide_eq_true (List.mem_filter.mp (List.mem_of_getLast? hend')).2
      have hsays : saysComplete v ↔
          ((es.filter (·.kind = .sessionEnd)).getLast?.getD e).isComplete probes.serde
            s.monitor.repoDir = true := by
        rw [saysComplete, hget, get_signal_sessionEnd _ _ hlastKind]
        simp
      constructor
      · rintro ⟨signal, hsignal, hcompleted⟩
        cases hsignal
        refine ⟨hnone, ?_, fun _ last hlast' => ?_⟩
        · rw [hbefore]
          exact nofun
        · have hlast'' := hsays.mp hcompleted
          rwa [hlast', Option.getD_some] at hlast''
      · intro hreported
        refine ⟨v, rfl, hsays.mpr ?_⟩
        cases hend' : (es.filter (·.kind = .sessionEnd)).getLast? with
        | none => exact hcomplete
        | some last => exact hreported.sessionEnd hbefore last hend'

end

/-- After a session end that reported a complete arc, whatever came before, the next poll leaves a
completion noted exactly if one was noted before, or the events since leave the report to be
read. -/
theorem session_end_detected_iff (probes : Probes) (s₀ : HookWorld) (pre : List HookAction)
    (e : HookEvent) (es : List HookEvent) (w : Surroundings) (hend : e.kind = .sessionEnd)
    (hcomplete : e.isComplete probes.serde s₀.monitor.repoDir = true)
    (hread : ∀ e' ∈ e :: es,
      probes.serde.ReadsBack (e'.signal probes.serde s₀.monitor.repoDir)) :
    (s₀.run probes
        (pre ++ .event e :: (es.map .event ++ [.tick w]))).monitor.completionDetectedAt.isSome =
          true ↔
      (s₀.run probes pre).monitor.completionDetectedAt.isSome = true ∨
        (s₀.run probes pre).Reported probes es := by
  have hrun : s₀.run probes (pre ++ .event e :: (es.map .event ++ [.tick w])) =
      ((s₀.run probes pre).run probes ((e :: es).map .event)).act probes (.tick w) := by
    rw [HookWorld.run, List.foldl_append, List.foldl_cons, List.foldl_append]
    rfl
  rw [← repoDir_run probes s₀ pre] at hcomplete hread
  rw [hrun, ← reported_iff hend hcomplete hread]
  generalize s₀.run probes pre = s
  have hmonitor := run_events_monitor probes s (e :: es)
  dsimp only [HookWorld.act]
  rw [completionDetectedAt_checkSignals, hmonitor, HookWorld.signalIn, HookWorld.signalIn, hmonitor]
  exact Iff.rfl

private def loopText : String := "\n".intercalate [
  "---",
  "active: true",
  "checkpoint_path: .rune/arc/arc-1/checkpoint.json",
  "plan_file: plan.md",
  "---"]

private def checkpointText : String :=
  "\x7b\"id\":\"arc-1\",\"plan_file\":\"plan.md\",\"phases\":\x7b\"merge\":" ++
    "\x7b\"status\":\"completed\"\x7d\x7d\x7d"

private def signalText (event : String) (isComplete : List String) : String :=
  "\n".intercalate ([
    "\x7b",
    "  \"checkpoint\": \x7b",
    "    \"completed\": 1,",
    "    \"current_phase\": \"all_complete\",",
    "    \"plan_file\": \"plan.md\",",
    "    \"total\": 1",
    "  \x7d,",
    "  \"event\": \"" ++ event ++ "\","] ++ isComplete ++ [
    "  \"session_id\": \"abc\",",
    "  \"timestamp\": \"2025-01-01T00:00:00+00:00\"",
    "\x7d"])

private def endText : String := signalText "session_end" ["  \"is_complete\": true,"]

private def stopText : String := signalText "stop" []

private def signalMembers (event : String) (isComplete : List (String × Json)) : Json :=
  .object ([
    ("event", .string event),
    ("session_id", .string "abc"),
    ("timestamp", .string "2025-01-01T00:00:00+00:00")] ++ isComplete ++ [
    ("checkpoint", .object [
      ("plan_file", .string "plan.md"),
      ("current_phase", .string "all_complete"),
      ("completed", .number (.posInt 1)),
      ("total", .number (.posInt 1))])])

/-- `serde_json` on these texts. -/
private def hookSerde : SerdeValue where
  fromStr text :=
    if text = checkpointText then some (.object [
      ("id", .string "arc-1"),
      ("plan_file", .string "plan.md"),
      ("phases", .object [("merge", .object [("status", .string "completed")])])])
    else if text = endText then some (signalMembers "session_end" [("is_complete", .bool true)])
    else if text = stopText then some (signalMembers "stop" [])
    else none
  toPretty v := if (v.get "is_complete").isSome then endText else stopText
  display _ := ""

private def hookProbes : Probes where
  serde := hookSerde
  hashStr _ := 0
  toLowercase := id
  paneErrorClass _ := none
  parseRfc3339 _ := none

private def completeArc : Files := Dict.ofList [
  ("/repo/.rune/arc-phase-loop.local.md", some loopText),
  ("/repo/.rune/arc/arc-1/checkpoint.json", some checkpointText)]

private def hookEvent (kind : HookKind) : HookEvent where
  kind
  sessionId := "abc"
  timestamp := "2025-01-01T00:00:00+00:00"
  seen := completeArc

private theorem readsBack_sessionEnd :
    hookSerde.ReadsBack ((hookEvent .sessionEnd).signal hookSerde "/repo") := by
  have hsignal : (hookEvent .sessionEnd).signal hookSerde "/repo" =
      signalMembers "session_end" [("is_complete", .bool true)] := by
    rfl
  have hread : hookSerde.fromStr endText =
      some (signalMembers "session_end" [("is_complete", .bool true)]) := by
    have hne : endText ≠ checkpointText := by decide
    dsimp only [hookSerde]
    rw [if_neg hne, if_pos rfl]
  rw [hsignal]
  exact ⟨_, hread, fun _ => rfl⟩

private theorem isComplete_sessionEnd :
    (hookEvent .sessionEnd).isComplete hookSerde "/repo" = true := by
  decide +kernel

private def freshWorld : HookWorld where
  files := ∅
  monitor := .new "/repo" none 0 (.fromEnv fun _ => none) 0 0

private def hookTick : Surroundings where
  now := 0
  utcNow := 0
  files := ∅
  permissionPending := false
  probe := .present
  pane := none
  enterSent := false
  pidAlive _ := true
  swarm _ := false
  online := true
  scanArtifactDir _ := none

/-- The report of a session end that comes alone is noted. -/
theorem lone_session_end_detected :
    (freshWorld.run hookProbes
      ([] ++ .event (hookEvent .sessionEnd) ::
        ([].map .event ++ [.tick hookTick]))).monitor.completionDetectedAt.isSome = true :=
  (session_end_detected_iff hookProbes freshWorld [] (hookEvent .sessionEnd) [] hookTick rfl
    isComplete_sessionEnd (List.forall_mem_singleton.mpr readsBack_sessionEnd)).mpr <|
      .inr ⟨nofun, nofun, fun _ => nofun⟩

/-- A session end that reports a complete arc after a stop is not noted. -/
theorem stop_hides_session_end :
    ¬ ∀ (probes : Probes) (s₀ : HookWorld) (pre : List HookAction) (e : HookEvent)
      (es : List HookEvent) (w : Surroundings), e.kind = .sessionEnd →
      e.isComplete probes.serde s₀.monitor.repoDir = true →
      (∀ e' ∈ e :: es, probes.serde.ReadsBack (e'.signal probes.serde s₀.monitor.repoDir)) →
      (s₀.run probes
        (pre ++ .event e :: (es.map .event ++ [.tick w]))).monitor.completionDetectedAt.isSome =
          true := by
  intro hclaim
  have hdetected := hclaim hookProbes freshWorld [.event (hookEvent .stop)] (hookEvent .sessionEnd)
    [] hookTick rfl isComplete_sessionEnd (List.forall_mem_singleton.mpr readsBack_sessionEnd)
  have hnone : (freshWorld.run hookProbes ([.event (hookEvent .stop)] ++
      .event (hookEvent .sessionEnd) ::
        ([].map .event ++ [.tick hookTick]))).monitor.completionDetectedAt.isSome = false := by
    decide +kernel
  rw [hnone] at hdetected
  cases hdetected

end GreaterWill
