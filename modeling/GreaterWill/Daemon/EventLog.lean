import GreaterWill.Daemon.FollowLogs
import GreaterWill.Lib.JsonText
import GreaterWill.Lib.LossyText
import GreaterWill.Lib.SharedFile
import GreaterWill.Lib.TextLemmas

/-!
# The event log of a run

`events.jsonl`: every thread and process appends its events under the lock of the file
(`append_event_sync` of `daemon/events.rs`), and `gw logs` prints the tail that the daemon reads
(`read_log_tail`, and `print_formatted_events` of `commands/logs.rs`).

As long as the locks are granted, no interleaving of the writers mixes two events up, and an event
that is cut off costs at most one other (`logs_show_events`).
-/

namespace GreaterWill

namespace Text
variable {α : Type}

/-- To a reader that trims the lines and skips empty ones, the ends of the lines do not matter. -/
theorem filterMap_lines {f : List Char → Option α} (hnil : f [] = none) (s : List Char) :
    (lines s).filterMap (fun line => f (trim line)) =
      (splitLines s).filterMap fun line => f (trim line) := by
  obtain ⟨ended, last, heq⟩ :=
    (List.eq_nil_or_concat' (splitLines s)).resolve_left (splitLines_ne_nil s)
  have hended : (fun line => f (trim line)) ∘ (fun line : List Char =>
      if line.getLast? = some '\r' then line.dropLast else line) = fun line => f (trim line) := by
    funext line
    dsimp only [Function.comp_apply]
    split
    · next hlast =>
      obtain ⟨line', rfl⟩ := List.getLast?_eq_some_iff.mp hlast
      have hreturn : ∀ c ∈ ['\r'], isWhitespace c = true := List.forall_mem_singleton.mpr rfl
      rw [List.dropLast_concat, trim, trim, trimMatches_append_right hreturn]
    · rfl
  have htrim : trim [] = [] := rfl
  rw [lines, heq, List.dropLast_concat, List.getLast?_concat, List.filterMap_append,
    List.filterMap_append, List.filterMap_map, hended]
  congr 1
  by_cases hlast : last = []
  · simp [hlast, htrim, hnil]
  · simp [hlast]

end Text

/-! ## Writing -/

/-- An event with its RFC 3339 timestamp. -/
structure Event where
  ts : String
  event : String
  msg : String

namespace Event
variable (e : Event)

/-- Its JSON object; the keys of a `serde_json::Map` are sorted. -/
def json : Json := .object [("event", .string e.event), ("msg", .string e.msg), ("ts", .string e.ts)]

def line : Bytes := JsonText.toBytes e.json

/-- What `append_event_sync` writes. -/
def text : Bytes := e.line ++ [Utf8.lineFeed]

end Event

/-- The event log and those who append to it. -/
abbrev EventLog := SharedFile Event UInt8

/-! ## Reading -/

/-- `read_log_tail`, with the length of the file when it was opened. -/
def readLogTail (tail : Option Nat) (fileLen : Nat) (content : Bytes) : List Char :=
  if tail = some 0 then []
  else
    let start := fileLen - FollowWorld.wantBytes tail
    lossyText ((content.drop start).take (FollowWorld.wantBytes tail))

/-- `Value::get` and `Value::as_str`. -/
def Json.strField (v : Json) (key : String) : Option String :=
  match v with
  | .object ms =>
    match (Dict.ofList ms).lookup key with
    | some (.string s) => some s
    | _ => none
  | _ => none

/-- The time of day of an RFC 3339 timestamp. -/
def formatTime (ts : List Char) : List Char :=
  match ts.dropWhile (· ≠ 'T') with
  | [] => ts
  | _ :: afterT => afterT.takeWhile fun c => c ∉ ['.', '+', '-', 'Z']

/-- The tags that events are displayed with. -/
def eventTags : List (String × String) :=
  [("started", "START"), ("phase_change", "PHASE"), ("completed", "DONE"), ("failed", "FAIL"),
    ("stopped", "STOP"), ("crash_recovery", "CRASH"), ("recovery_started", "RECOV"),
    ("recovery_failed", "FAIL"), ("kill_session", "KILL"), ("session_died", "DIED"),
    ("spawn_failed", "SPNFAIL"), ("completion_detected", "DETECT"), ("detached", "DETACH")]

/-- `event_display`, without the style. -/
def eventDisplay (event : String) : String := (eventTags.lookup event).getD event

/-- The line for an event: its time, its tag in at least nine columns, and its message. -/
def formatEvent (ts event msg : String) : List Char :=
  let eventTag := (eventDisplay event).toList
  [' ', ' '] ++ formatTime ts.toList ++ [' ', ' '] ++
    (eventTag ++ List.replicate (9 - eventTag.length) ' ') ++ [' ', ' '] ++ msg.toList

/-- The line for a trimmed line of the log; what is no JSON is printed as it is. -/
def formatLine (line : List Char) : Option (List Char) :=
  if line.isEmpty then none
  else
    match JsonText.parse line with
    | some obj =>
      some (formatEvent ((obj.strField "ts").getD "") ((obj.strField "event").getD "?")
        ((obj.strField "msg").getD ""))
    | none => some ([' ', ' '] ++ line)

/-- `print_formatted_events`: the lines it prints. -/
def printFormattedEvents (data : List Char) : List (List Char) :=
  (Text.lines data).filterMap fun line => formatLine (Text.trim line)

/-- The line that an event is printed as. -/
def Event.shown (e : Event) : List Char := formatEvent e.ts e.event e.msg

/-! ## An event is one line -/

namespace JsonText

theorem newline_notMem_escape (c : Char) : '\n' ∉ escape c := by
  rw [escape]
  cases hlookup : shortEscapes.lookup c with
  | some e =>
    have hmem := mem_of_lookup hlookup
    have hletter : ∀ m ∈ shortEscapes, m.2 ≠ '\n' := by simp [shortEscapes]
    simp [(hletter (c, e) hmem).symm]
  | none =>
    have hhex : ∀ n < 16, hexDigit n ≠ '\n' := by
      intro n hn heq
      have hvalue := hexValue_hexDigit hn
      rw [heq] at hvalue
      cases hvalue
    dsimp only
    split
    · next hcontrol =>
      have hhigh := hhex (c.toNat / 16) (by omega)
      have hlow := hhex (c.toNat % 16) (by omega)
      simp [hhigh.symm, hlow.symm]
    · next hprints =>
      rw [List.mem_singleton]
      rintro rfl
      exact hprints (by decide)

theorem newline_notMem_renderString (s : String) : '\n' ∉ renderString s := by
  simp [renderString, newline_notMem_escape]

end JsonText

namespace Event
variable (e : Event)

theorem newline_notMem_render : '\n' ∉ JsonText.render e.json := by
  simp [json, JsonText.render, JsonText.renderMembers, JsonText.newline_notMem_renderString]

theorem plain_json : JsonText.plain e.json = true := rfl

/-- The line begins and ends with a brace. -/
theorem trim_render : Text.trim (JsonText.render e.json) = JsonText.render e.json := by
  have hlast : (JsonText.render e.json).getLast? = some '\x7d' := by
    simp [json, JsonText.render, JsonText.renderMembers, List.getLast?_cons, List.getLast?_append]
  have hfirst : (JsonText.render e.json).dropWhile Text.isWhitespace = JsonText.render e.json := rfl
  rw [Text.trim, Text.trimMatches, hfirst]
  exact Text.rdropWhile_of_last hlast rfl

theorem formatLine_render :
    formatLine (Text.trim (JsonText.render e.json)) = some e.shown := by
  have hne : (JsonText.render e.json).isEmpty = false := rfl
  have hts : e.json.strField "ts" = some e.ts := by
    simp [json, Json.strField, Dict.ofList]
  have hevent : e.json.strField "event" = some e.event := by
    simp [json, Json.strField, Dict.ofList]
  have hmsg : e.json.strField "msg" = some e.msg := by
    simp [json, Json.strField, Dict.ofList]
  rw [trim_render, formatLine, hne, JsonText.parse_render e.plain_json]
  simp [hts, hevent, hmsg, shown]

end Event

/-! ## The log by its lines -/

theorem splitLines_lossyText (bs : Bytes) :
    Text.splitLines (lossyText bs) = (bs.splitOn Utf8.lineFeed).map lossyText := by
  by_cases hbs : Utf8.lineFeed ∈ bs
  · obtain ⟨a, cs, rfl, ha⟩ := List.eq_append_cons_of_mem hbs
    have ih := splitLines_lossyText cs
    rw [lossyText_append_lineFeed, Text.splitLines_append (notMem_lossyText ha), ih,
      List.splitOn_append_cons_self_of_not_mem ha, List.map_cons]
  · rw [List.splitOn_eq_singleton hbs, List.map_singleton]
    exact Text.splitLines_of_notMem (notMem_lossyText hbs)
termination_by bs.length
decreasing_by
  subst_vars
  simp
  omega

/-- What is printed for a line of the file. -/
def printLine (line : Bytes) : Option (List Char) := formatLine (Text.trim (lossyText line))

theorem printFormattedEvents_lossyText (bs : Bytes) :
    printFormattedEvents (lossyText bs) = (bs.splitOn Utf8.lineFeed).filterMap printLine := by
  rw [printFormattedEvents, Text.filterMap_lines rfl, splitLines_lossyText, List.filterMap_map]
  rfl

theorem printLine_nil : printLine [] = none := by
  have hnil : lossyText [] = [] := lossyText_encode []
  rw [printLine, hnil]
  rfl

namespace Event
variable (e : Event)

theorem line_eq_encode : e.line = Utf8.encode (JsonText.render e.json) :=
  (Utf8.encode_eq_toByteArray _).symm

theorem lineFeed_notMem_line : Utf8.lineFeed ∉ e.line := by
  intro hmem
  obtain ⟨bs, cs, heq⟩ := List.append_of_mem hmem
  have htext := congrArg lossyText heq
  rw [line_eq_encode, lossyText_encode, lossyText_append_lineFeed] at htext
  apply e.newline_notMem_render
  rw [htext]
  exact List.mem_append_right _ List.mem_cons_self

theorem printLine_line : printLine e.line = some e.shown := by
  rw [printLine, line_eq_encode, lossyText_encode]
  exact e.formatLine_render

end Event

/-- What `gw logs` prints of a log with the given records, of which some are not whole. -/
theorem printed_of_appended {is : List Event} {content : Bytes} {k : Nat}
    (h : SharedFile.Appended Event.text is content k) : ∃ kept : List Event, kept.Sublist is ∧
      (kept.map Event.shown).Sublist (printFormattedEvents (lossyText content)) ∧
      is.length ≤ kept.length + 2 * k ∧
      (printFormattedEvents (lossyText content)).length ≤ kept.length + k := by
  have htext : ∀ e : Event, e.text = e.line ++ [Utf8.lineFeed] := fun _ => rfl
  obtain ⟨L⟩ := h.lines htext Event.lineFeed_notMem_line
  have hshown : (L.kept.map Event.line).filterMap printLine = L.kept.map Event.shown := by
    have hsome : printLine ∘ Event.line = fun e => some e.shown := by
      funext e
      rw [Function.comp_apply, e.printLine_line]
    rw [List.filterMap_map, hsome, List.filterMap_eq_map']
  have hprinted := printFormattedEvents_lossyText content
  rw [L.splitOn, List.filterMap_append] at hprinted
  have hlost := L.lost
  have hothers := L.others
  have hlines := List.length_filterMap_le printLine L.lines
  refine ⟨L.kept, L.sublist, ?_, by omega, ?_⟩
  · rw [hprinted, ← hshown]
    exact (L.shown.filterMap printLine).trans (List.sublist_append_left _ _)
  · rw [hprinted, List.length_append]
    by_cases hlast : L.last = []
    · rw [if_pos hlast] at hothers
      simp [hlast, printLine_nil]
      omega
    · rw [if_neg hlast] at hothers
      have hend := List.length_filterMap_le printLine [L.last]
      rw [List.length_singleton] at hend
      omega

/-- A tail of the log is printed as it is in the whole log, but for the lines at both ends. -/
theorem printed_of_readLogTail (tail : Option Nat) (fileLen : Nat) (content : Bytes) :
    ∃ first mid last, printFormattedEvents (readLogTail tail fileLen content) =
        first ++ mid ++ last ∧ first.length ≤ 1 ∧ last.length ≤ 1 ∧
      mid <:+: printFormattedEvents (lossyText content) := by
  rw [readLogTail]
  split
  · exact ⟨[], [], [], rfl, Nat.zero_le _, Nat.zero_le _, List.nil_infix⟩
  · have hpart : (content.drop (fileLen - FollowWorld.wantBytes tail)).take
        (FollowWorld.wantBytes tail) <:+: content :=
      (List.take_prefix _ _).isInfix.trans (List.drop_suffix _ _).isInfix
    obtain ⟨first, mid, last, hsplit, hfirst, hlast, hmid⟩ :=
      exists_infix_splitOn (c := Utf8.lineFeed) hpart
    refine ⟨first.filterMap printLine, mid.filterMap printLine, last.filterMap printLine, ?_,
      (List.length_filterMap_le _ _).trans hfirst, (List.length_filterMap_le _ _).trans hlast, ?_⟩
    · rw [printFormattedEvents_lossyText, hsplit, List.filterMap_append, List.filterMap_append]
    · rw [printFormattedEvents_lossyText]
      exact hmid.filterMap printLine

/-- **What `gw logs` shows is what was logged.** The locks are granted; the writers come and go in
any order. Without cuts, the log between two writers shows every event, in the order of the locks.
With cuts it still shows all but two events for each cut, in that order, and no more other lines
than cuts; an event that is being written counts as one. A tail shows a part of that, but for the
lines at its ends. -/
theorem logs_show_events (es : List (FileEvent Event)) (log : EventLog)
    (hrun : exec (SharedFile.step Event.text) {} es = some log) (hlocked : ∀ e ∈ es, e.Locked) :
    (log.cuts = 0 → log.holder = none →
      printFormattedEvents (lossyText log.content) = log.order.map Event.shown) ∧
    (∃ k ≤ log.cuts + (if log.holder.isSome then 1 else 0), ∃ kept : List Event,
      kept.Sublist log.order ∧
      (kept.map Event.shown).Sublist (printFormattedEvents (lossyText log.content)) ∧
      log.order.length ≤ kept.length + 2 * k ∧
      (printFormattedEvents (lossyText log.content)).length ≤ kept.length + k) ∧
    ∀ tail fileLen, ∃ first mid last,
      printFormattedEvents (readLogTail tail fileLen log.content) = first ++ mid ++ last ∧
      first.length ≤ 1 ∧ last.length ≤ 1 ∧
      mid <:+: printFormattedEvents (lossyText log.content) := by
  obtain ⟨k, happended, hk⟩ := SharedFile.appended_of_run hrun hlocked
  obtain ⟨kept, hkept, hshown, hlost, hothers⟩ := printed_of_appended happended
  refine ⟨?_, ⟨k, hk, kept, hkept, hshown, hlost, hothers⟩,
    fun tail fileLen => printed_of_readLogTail tail fileLen log.content⟩
  intro hcuts hfree
  rw [hcuts, hfree] at hk
  have hzero : k = 0 := Nat.le_zero.mp hk
  rw [hzero] at hlost hothers
  have hall : kept = log.order := hkept.eq_of_length_le hlost
  rw [← hall]
  refine (hshown.eq_of_length_le ?_).symm
  rw [List.length_map]
  exact hothers

def startedEvent : Event :=
  ⟨"2026-04-10T14:01:55.120000+00:00", "started", "plan: plans/feat.md"⟩

def stoppedEvent : Event := ⟨"2026-04-10T14:01:56.481370+00:00", "stopped", "stopped by user"⟩

/-- Two writers arrive, the second gets the lock first, and each writes in two pieces. -/
def startedAndStopped : List (FileEvent Event) :=
  [.append startedEvent, .append stoppedEvent, .lock 1, .write 5, .write stoppedEvent.text.length,
    .release, .lock 0, .write 7, .write startedEvent.text.length, .release]

theorem logs_show_stopped_first : ∃ log, exec (SharedFile.step Event.text) {} startedAndStopped =
      some log ∧
    printFormattedEvents (lossyText log.content) =
      ["  14:01:56  STOP       stopped by user".toList,
        "  14:01:55  START      plan: plans/feat.md".toList] := by
  have hpieces : ∀ (n : Nat) (t s : Bytes), t.take n ++ ((t.drop n).take t.length ++ s) = t ++ s := by
    intro n t s
    have hlen : (t.drop n).length ≤ t.length := (List.drop_sublist n t).length_le
    rw [List.take_of_length_le hlen, ← List.append_assoc, List.take_append_drop]
  have hrun : exec (SharedFile.step Event.text) {} startedAndStopped = some
      { content := stoppedEvent.text ++ startedEvent.text
        order := [stoppedEvent, startedEvent] } := by
    have hlast := hpieces 7 startedEvent.text []
    simp only [List.append_nil] at hlast
    simp [startedAndStopped, exec, SharedFile.step, List.drop_eq_nil_of_le, hpieces, hlast]
  have hlocked : ∀ e ∈ startedAndStopped, e.Locked := by
    simp [startedAndStopped, FileEvent.Locked]
  refine ⟨_, hrun, ((logs_show_events startedAndStopped _ hrun hlocked).1 rfl rfl).trans ?_⟩
  decide +kernel

end GreaterWill
