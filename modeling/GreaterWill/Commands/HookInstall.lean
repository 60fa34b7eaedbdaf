import GreaterWill.Commands.Elden

/-!
# Hook installation

`install` and `uninstall` of `commands/elden.rs`: gw registers its hooks in the user's
`.claude/settings.json`. A hook of gw is recognised by the marker in its command; what is added and
removed are entries, each with a list of hooks.
-/

namespace GreaterWill

open Text
open DaemonRunMonitor (jsonStr)

/-- The items of an array. -/
def Json.asArray : Json → Option (List Json)
  | .array items => some items
  | _ => none

/-- The hook command we register. -/
def HOOK_COMMAND : String := "gw elden"

/-- Marker to identify our hooks in the settings file. -/
def HOOK_MARKER : String := "gw elden"

/-- All hooks gw needs, with their commands. -/
def requiredHooks : List (String × String) := [
  ("SessionStart", HOOK_COMMAND),
  ("PreCompact", HOOK_COMMAND),
  ("Stop", "gw elden --event stop"),
  ("StopFailure", "gw elden --event stop-failure"),
  ("SessionEnd", "gw elden --event session-end"),
  ("PermissionRequest", "gw elden --event permission")]

/-- The events that `uninstall` visits. -/
def hookEvents : List String :=
  ["SessionStart", "PreCompact", "Stop", "StopFailure", "SessionEnd", "PermissionRequest"]

/-- The command of a hook has the marker. -/
def isGwCommand (hook : Json) : Bool :=
  ((hook.get "command").bind jsonStr).any fun c => contains c.toList HOOK_MARKER.toList

/-- One of the hooks of an entry is gw's. -/
def isGwEntry (entry : Json) : Bool :=
  ((entry.get "hooks").bind Json.asArray).any (·.any isGwCommand)

/-- Check if a gw elden hook is already registered for an event. -/
def hasGwHook (settings : Json) (event : String) : Bool :=
  (((settings.get "hooks").bind (·.get event)).bind Json.asArray).any (·.any isGwEntry)

/-- The entry that is added for a command. -/
def newEntry (command : String) : Json :=
  .object [
    ("matcher", .string ""),
    ("hooks", .array [.object [("type", .string "command"), ("command", .string command)]])]

/-- Install a single hook entry for a given event, preserving existing hooks. -/
def installHook (hooks : Dict Json) (event command : String) : Dict Json :=
  match hooks.lookup event with
  | some (.array entries) => hooks.insert event (.array (entries ++ [newEntry command]))
  | _ => hooks.insert event (.array [newEntry command])

/-- Remove gw elden hooks from a specific event; whether any were removed. -/
def removeGwHooks (hooks : Dict Json) (event : String) : Dict Json × Bool :=
  match (hooks.lookup event).bind Json.asArray with
  | none => (hooks, false)
  | some entries =>
    let kept := entries.filter fun entry => !isGwEntry entry
    (if kept.isEmpty then hooks.erase event else hooks.insert event (.array kept),
      kept.length < entries.length)

/-- The settings with the given hooks. -/
def withHooks (settings hooks : Dict Json) : Json :=
  .object (Dict.toList (settings.insert "hooks" (.object hooks.toList)))

/-- The part of `install` between reading and writing; `none` where nothing is missing. -/
def installInto (settings : Json) : Except String (Option Json) :=
  let missing := requiredHooks.filter fun h => !hasGwHook settings h.1
  if missing.isEmpty then .ok none
  else
    match settings.asObject with
    | none => .error "settings.json root is not an object"
    | some members =>
      let obj := Dict.ofList members
      let obj := if "hooks" ∈ obj then obj else obj.insert "hooks" (.object [])
      match obj.lookup "hooks" with
      | none => .error "hooks key missing after insert"
      | some hooks =>
        match hooks.asObject with
        | none => .error "\"hooks\" is not an object"
        | some hooks =>
          .ok (some (withHooks obj
            (missing.foldl (fun hooks h => installHook hooks h.1 h.2) (Dict.ofList hooks))))

/-- The part of `uninstall` between reading and writing; `none` where nothing was removed. -/
def uninstallFrom (settings : Json) : Option Json :=
  match settings.asObject with
  | none => none
  | some members =>
    match ((Dict.ofList members).lookup "hooks").bind Json.asObject with
    | none => none
    | some hooks =>
      let result := hookEvents.foldl
        (fun acc event =>
          let step := removeGwHooks acc.1 event
          (step.1, if step.2 then true else acc.2))
        (Dict.ofList hooks, false)
      if result.2 then some (withHooks (Dict.ofList members) result.1) else none

/-- `.claude/settings.json`, which can be written. -/
inductive SettingsFile where
  | absent
  | unreadable
  /-- Its text is not JSON. -/
  | malformed
  | settings (value : Json)

/-- Load existing settings or start fresh. -/
def SettingsFile.load : SettingsFile → Except String Json
  | absent => .ok (.object [])
  | unreadable => .error "Failed to read .claude/settings.json"
  | malformed => .error "Failed to parse .claude/settings.json"
  | settings value => .ok value

/-- Install gw elden hooks into `.claude/settings.json`. -/
def install (file : SettingsFile) : Except String Unit × SettingsFile :=
  match file.load with
  | .error e => (.error e, file)
  | .ok settings =>
    match installInto settings with
    | .error e => (.error e, file)
    | .ok none => (.ok (), file)
    | .ok (some settings) => (.ok (), .settings settings)

/-- Remove gw elden hooks from `.claude/settings.json`. -/
def uninstall (file : SettingsFile) : Except String Unit × SettingsFile :=
  match file with
  | .absent => (.ok (), file)
  | _ =>
    match file.load with
    | .error e => (.error e, file)
    | .ok settings =>
      match uninstallFrom settings with
      | none => (.ok (), file)
      | some settings => (.ok (), .settings settings)

/-! ## The hooks of the settings -/

/-- What the hooks have for an event. -/
def hookAt (settings : Json) (event : String) : Option Json :=
  (settings.get "hooks").bind (·.get event)

section
variable {v w : Json} {hooks settings : Dict Json} {event command : String}
  {entries : List Json}

theorem hasGwHook_eq (v : Json) (event : String) : hasGwHook v event =
    ((hookAt v event).bind Json.asArray).any (·.any isGwEntry) := rfl

theorem get_withHooks {k : String} (h : k ≠ "hooks") :
    (withHooks settings hooks).get k = settings.lookup k := by
  rw [withHooks, Json.get_object, Dict.ofList_toList, Finmap.lookup_insert_of_ne _ h]

@[simp] theorem get_hooks_withHooks :
    (withHooks settings hooks).get "hooks" = some (.object hooks.toList) := by
  rw [withHooks, Json.get_object, Dict.ofList_toList, Finmap.lookup_insert]

@[simp] theorem hookAt_withHooks :
    hookAt (withHooks settings hooks) event = hooks.lookup event := by
  rw [hookAt, get_hooks_withHooks, Option.bind_some, Json.get_object, Dict.ofList_toList]

/-- What `install` makes of the value of an event. -/
def withEntry (command : String) : Option Json → Option Json
  | some (.array entries) => some (.array (entries ++ [newEntry command]))
  | _ => some (.array [newEntry command])

/-- The value of an event without gw's entries; an array that is empty is no value. -/
def withoutGw : Option Json → Option Json
  | some (.array entries) =>
    let kept := entries.filter fun entry => !isGwEntry entry
    if kept.isEmpty then none else some (.array kept)
  | value => value

theorem lookup_installHook (hooks : Dict Json) (event command k : String) :
    (installHook hooks event command).lookup k =
      if k = event then withEntry command (hooks.lookup k) else hooks.lookup k := by
  rw [installHook]
  by_cases hk : k = event
  · subst hk
    rw [if_pos rfl]
    rcases hooks.lookup k with _ | _ | _ | _ | _ | entries | members
    all_goals exact Finmap.lookup_insert _
  · rw [if_neg hk]
    split
    · exact Finmap.lookup_insert_of_ne _ hk
    · exact Finmap.lookup_insert_of_ne _ hk

theorem lookup_removeGwHooks (hooks : Dict Json) (event k : String) :
    (removeGwHooks hooks event).1.lookup k =
      if k = event then withoutGw (hooks.lookup k) else hooks.lookup k := by
  rw [removeGwHooks]
  by_cases hk : k = event
  · subst hk
    rw [if_pos rfl]
    cases hvalue : hooks.lookup k with
    | none => exact hvalue
    | some value =>
      cases value with
      | array entries =>
        dsimp only [Option.bind_some, Json.asArray, withoutGw]
        split
        · exact Finmap.lookup_erase k hooks
        · exact Finmap.lookup_insert _
      | _ => exact hvalue
  · rw [if_neg hk]
    split
    · rfl
    · dsimp only
      split
      · exact Finmap.lookup_erase_ne hk
      · exact Finmap.lookup_insert_of_ne _ hk

/-- Something is removed from an event exactly if gw has an entry there. -/
theorem removeGwHooks_snd (hooks : Dict Json) (event : String) : (removeGwHooks hooks event).2 =
    ((hooks.lookup event).bind Json.asArray).any (·.any isGwEntry) := by
  rw [removeGwHooks]
  cases (hooks.lookup event).bind Json.asArray with
  | none => rfl
  | some entries =>
    rw [Bool.eq_iff_iff, decide_eq_true_iff, List.length_filter_lt_length_iff_exists]
    simp

/-! ## The hooks after a run -/

/-- The required hooks that are missing. -/
def missingHooks (v : Json) : List (String × String) :=
  requiredHooks.filter fun h => !hasGwHook v h.1

theorem mem_missingHooks {h : String × String} :
    h ∈ missingHooks v ↔ h ∈ requiredHooks ∧ hasGwHook v h.1 = false := by
  rw [missingHooks, List.mem_filter, Bool.not_eq_true']

theorem nodup_missingHooks : ((missingHooks v).map Prod.fst).Nodup := by
  have hrequired : (requiredHooks.map Prod.fst).Nodup := by decide
  exact hrequired.sublist (List.filter_sublist.map _)

/-- What `install` writes: the hooks, if there are any, with an entry for each missing one. -/
theorem installInto_eq_some (h : installInto v = .ok (some w)) :
    ∃ settings hooks : Dict Json, (∀ k, settings.lookup k = v.get k) ∧
      (∀ e, hooks.lookup e = hookAt v e) ∧ w = withHooks settings
        ((missingHooks v).foldl (fun hooks h => installHook hooks h.1 h.2) hooks) := by
  rw [installInto] at h
  split at h
  · cases h
  · cases hv : v.asObject with
    | none =>
      rw [hv] at h
      cases h
    | some members =>
      have hget : ∀ k, (Dict.ofList members).lookup k = v.get k := by
        intro k
        rw [Json.get, hv, Option.bind_some]
      rw [hv] at h
      dsimp only at h
      refine ⟨Dict.ofList members, ?_⟩
      by_cases hmem : "hooks" ∈ Dict.ofList members
      · obtain ⟨value, hvalue⟩ := Finmap.mem_iff.mp hmem
        rw [if_pos hmem, hvalue] at h
        dsimp only at h
        cases hobject : value.asObject with
        | none =>
          rw [hobject] at h
          cases h
        | some hooks =>
          rw [hobject] at h
          cases h
          refine ⟨Dict.ofList hooks, hget, fun e => ?_, rfl⟩
          rw [hookAt, ← hget, hvalue, Option.bind_some, Json.get, hobject, Option.bind_some]
      · rw [if_neg hmem, Finmap.lookup_insert] at h
        cases h
        refine ⟨∅, hget, fun e => ?_, ?_⟩
        · rw [hookAt, ← hget, Finmap.lookup_eq_none.mpr hmem, Finmap.lookup_empty,
            Option.bind_none]
        · rw [withHooks, withHooks, Finmap.insert_insert]
          rfl

/-- Settings without a missing hook stay as they are. -/
theorem installInto_eq_none : installInto v = .ok none ↔ missingHooks v = [] := by
  constructor
  · intro h
    rw [installInto] at h
    split at h
    · next hempty => exact List.isEmpty_iff.mp hempty
    · cases hv : v.asObject with
      | none =>
        rw [hv] at h
        cases h
      | some members =>
        rw [hv] at h
        dsimp only at h
        split at h
        · cases h
        · split at h
          · cases h
          · cases h
  · intro h
    rw [installInto]
    exact if_pos (List.isEmpty_iff.mpr h)

theorem hasGwHook_of_installed (h : installInto v = .ok none) :
    ∀ h ∈ requiredHooks, hasGwHook v h.1 = true := by
  intro hook hrequired
  by_contra hhook
  have hmissing := mem_missingHooks.mpr ⟨hrequired, Bool.eq_false_of_not_eq_true hhook⟩
  rw [installInto_eq_none.mp h] at hmissing
  cases hmissing

theorem get_of_installInto (h : installInto v = .ok (some w)) {k : String} (hk : k ≠ "hooks") :
    w.get k = v.get k := by
  obtain ⟨settings, hooks, hget, -, rfl⟩ := installInto_eq_some h
  rw [get_withHooks hk, hget]

theorem hookAt_of_installInto (h : installInto v = .ok (some w)) (event : String) :
    hookAt w event = (((missingHooks v).find? fun h => h.1 == event).elim id
      fun h => withEntry h.2) (hookAt v event) := by
  obtain ⟨settings, hooks, -, hhooks, rfl⟩ := installInto_eq_some h
  rw [hookAt_withHooks, Dict.lookup_foldl (fun hooks h k => lookup_installHook hooks h.1 h.2 k)
    nodup_missingHooks, hhooks]

theorem hookAt_of_missing (h : installInto v = .ok (some w))
    (hmem : (event, command) ∈ missingHooks v) :
    hookAt w event = withEntry command (hookAt v event) := by
  have hfind : (missingHooks v).find? (fun h => h.1 == event) = some (event, command) := by
    cases hfound : (missingHooks v).find? (fun h => h.1 == event) with
    | none => simpa using List.find?_eq_none.mp hfound _ hmem
    | some found =>
      have hfst : found.1 = event := by simpa using List.find?_some hfound
      rw [List.inj_on_of_nodup_map nodup_missingHooks (List.mem_of_find?_eq_some hfound) hmem hfst]
  rw [hookAt_of_installInto h, hfind]
  rfl

theorem hookAt_of_not_missing (h : installInto v = .ok (some w))
    (hmem : ∀ h ∈ missingHooks v, h.1 ≠ event) : hookAt w event = hookAt v event := by
  have hfind : (missingHooks v).find? (fun h => h.1 == event) = none := by
    rw [List.find?_eq_none]
    intro h hh
    rw [beq_iff_eq]
    exact hmem h hh
  rw [hookAt_of_installInto h, hfind]
  rfl

theorem hasGwHook_of_withEntry (hcommand : isGwEntry (newEntry command) = true)
    (h : hookAt w event = withEntry command (hookAt v event)) : hasGwHook w event = true := by
  rw [hasGwHook_eq, h]
  unfold withEntry
  split
  · simp [Json.asArray, hcommand]
  · simp [Json.asArray, hcommand]

/-- Every command that is added is recognised. -/
theorem isGwEntry_newEntry : ∀ h ∈ requiredHooks, isGwEntry (newEntry h.2) = true := by
  decide +kernel

/-! ## The hooks after a removal -/

/-- gw's entries of an event are its own: those of other events stay while it is removed. -/
theorem foldl_removeGwHooks (events : List String) (hnodup : events.Nodup) (hooks : Dict Json)
    (removed : Bool) :
    events.foldl (fun acc event =>
      let step := removeGwHooks acc.1 event
      (step.1, if step.2 then true else acc.2)) (hooks, removed) =
    (events.foldl (fun hooks event => (removeGwHooks hooks event).1) hooks,
      removed || events.any fun event =>
        ((hooks.lookup event).bind Json.asArray).any (·.any isGwEntry)) := by
  induction events generalizing hooks removed with
  | nil => simp
  | cons event events ih =>
    obtain ⟨hevent, hevents⟩ := List.nodup_cons.mp hnodup
    have hkeep : ∀ e ∈ events, (removeGwHooks hooks event).1.lookup e = hooks.lookup e := by
      intro e he
      rw [lookup_removeGwHooks, if_neg]
      rintro rfl
      exact hevent he
    have hany : (events.any fun e => (((removeGwHooks hooks event).1.lookup e).bind
        Json.asArray).any (·.any isGwEntry)) =
        events.any fun e => ((hooks.lookup e).bind Json.asArray).any (·.any isGwEntry) := by
      rw [Bool.eq_iff_iff, List.any_eq_true, List.any_eq_true]
      exact exists_congr fun e => and_congr_right fun he => by rw [hkeep e he]
    rw [List.foldl_cons, ih hevents, List.foldl_cons, List.any_cons, hany, removeGwHooks_snd]
    cases ((hooks.lookup event).bind Json.asArray).any (·.any isGwEntry) with
    | true => simp
    | false => simp

theorem nodup_hookEvents : hookEvents.Nodup := by decide

/-- `uninstall` finds no hooks, or writes them without gw's entries if there are any. -/
theorem uninstallFrom_cases (v : Json) :
    (uninstallFrom v = none ∧ ∀ e, hookAt v e = none) ∨
      ∃ settings hooks : Dict Json, (∀ k, settings.lookup k = v.get k) ∧
        (∀ e, hooks.lookup e = hookAt v e) ∧ uninstallFrom v =
          if hookEvents.any (hasGwHook v) then some (withHooks settings
            (hookEvents.foldl (fun hooks event => (removeGwHooks hooks event).1) hooks))
          else none := by
  cases hv : v.asObject with
  | none =>
    refine .inl ⟨by rw [uninstallFrom, hv], fun e => ?_⟩
    rw [hookAt, Json.get, hv, Option.bind_none, Option.bind_none]
  | some members =>
    have hget : ∀ k, (Dict.ofList members).lookup k = v.get k := by
      intro k
      rw [Json.get, hv, Option.bind_some]
    have hookAt_eq : ∀ e, hookAt v e =
        (((v.get "hooks").bind Json.asObject).bind fun hooks => (Dict.ofList hooks).lookup e) := by
      intro e
      rw [hookAt, Option.bind_assoc]
      rfl
    rw [uninstallFrom, hv]
    dsimp only
    rw [hget]
    cases hhooks : (v.get "hooks").bind Json.asObject with
    | none =>
      refine .inl ⟨rfl, fun e => ?_⟩
      rw [hookAt_eq, hhooks, Option.bind_none]
    | some hooks =>
      have hlookup : ∀ e, (Dict.ofList hooks).lookup e = hookAt v e := by
        intro e
        rw [hookAt_eq, hhooks, Option.bind_some]
      refine .inr ⟨Dict.ofList members, Dict.ofList hooks, hget, hlookup, ?_⟩
      dsimp only
      rw [foldl_removeGwHooks hookEvents nodup_hookEvents]
      simp only [Bool.false_or, hlookup, ← hasGwHook_eq]

theorem uninstallFrom_eq_none (h : ∀ e ∈ hookEvents, hasGwHook v e = false) :
    uninstallFrom v = none := by
  rcases uninstallFrom_cases v with ⟨hnone, -⟩ | ⟨settings, hooks, -, -, heq⟩
  · exact hnone
  · rw [heq, if_neg]
    simpa using h

/-- Where gw has a hook, `uninstall` writes the settings without gw's entries. -/
theorem uninstallFrom_of_hasGwHook {e : String} (he : e ∈ hookEvents)
    (h : hasGwHook v e = true) : ∃ w, uninstallFrom v = some w ∧
      (∀ k, k ≠ "hooks" → w.get k = v.get k) ∧
      ∀ event, hookAt w event =
        if event ∈ hookEvents then withoutGw (hookAt v event) else hookAt v event := by
  rcases uninstallFrom_cases v with ⟨-, hnone⟩ | ⟨settings, hooks, hget, hhooks, heq⟩
  · rw [hasGwHook_eq, hnone] at h
    cases h
  · rw [if_pos (List.any_eq_true.mpr ⟨e, he, h⟩)] at heq
    refine ⟨_, heq, fun k hk => ?_, fun event => ?_⟩
    · rw [get_withHooks hk, hget]
    · have hnodup : (hookEvents.map id).Nodup := by
        rw [List.map_id]
        exact nodup_hookEvents
      rw [hookAt_withHooks, Dict.lookup_foldl lookup_removeGwHooks hnodup, hhooks]
      cases hfound : hookEvents.find? fun e => e == event with
      | none =>
        have hmem : event ∉ hookEvents := by
          intro hmem
          simpa using List.find?_eq_none.mp hfound event hmem
        rw [if_neg hmem]
        rfl
      | some found =>
        have hevent : found = event := by simpa using List.find?_some hfound
        rw [if_pos (hevent ▸ List.mem_of_find?_eq_some hfound)]
        rfl

/-! ## What the user has -/

/-- An event without a value, or with a list of entries. -/
def ListsEntries (value : Option Json) : Prop :=
  value = none ∨ ∃ entries, value = some (.array entries)

/-- `w` has what `v` had: every member beside the hooks, and every entry of an event that is not
required or lists entries, with at most an entry of gw behind them. -/
structure Keeps (v w : Json) : Prop where
  members : ∀ k, k ≠ "hooks" → w.get k = v.get k
  hooks : (v.get "hooks").isSome → (w.get "hooks").isSome
  events : ∀ e, (hookAt v e).isSome → (hookAt w e).isSome
  others : ∀ e ∉ hookEvents, hookAt w e = hookAt v e
  entries : ∀ e entries, hookAt v e = some (.array entries) →
    hookAt w e = some (.array entries) ∨
      ∃ h ∈ requiredHooks, hookAt w e = some (.array (entries ++ [newEntry h.2]))

/-- `w` is `v` without gw's entries, up to an empty object of hooks. -/
structure WithoutGw (v w : Json) : Prop where
  members : ∀ k, k ≠ "hooks" → w.get k = v.get k
  others : ∀ e ∉ hookEvents, hookAt w e = hookAt v e
  entries : ∀ e ∈ hookEvents, ListsEntries (hookAt v e) → hookAt w e = withoutGw (hookAt v e)

theorem isSome_withEntry (command : String) (value : Option Json) :
    (withEntry command value).isSome = true := by
  unfold withEntry
  split
  · rfl
  · rfl

theorem Keeps.refl (v : Json) : Keeps v v where
  members _ _ := rfl
  hooks h := h
  events _ h := h
  others _ _ := rfl
  entries _ _ h := .inl h

theorem Keeps.of_installInto (h : installInto v = .ok (some w)) : Keeps v w where
  members _ := get_of_installInto h
  hooks _ := by
    obtain ⟨settings, hooks, -, -, rfl⟩ := installInto_eq_some h
    rw [get_hooks_withHooks]
    rfl
  events e he := by
    by_cases hmem : ∃ h ∈ missingHooks v, h.1 = e
    · obtain ⟨⟨_, command⟩, hmissing, rfl⟩ := hmem
      rw [hookAt_of_missing h hmissing]
      exact isSome_withEntry command _
    · rw [hookAt_of_not_missing h fun h hh heq => hmem ⟨h, hh, heq⟩]
      exact he
  others e he := by
    apply hookAt_of_not_missing h
    rintro ⟨_, command⟩ hmissing rfl
    exact he (List.mem_map_of_mem (mem_missingHooks.mp hmissing).1)
  entries e entries he := by
    by_cases hmem : ∃ h ∈ missingHooks v, h.1 = e
    · obtain ⟨⟨_, command⟩, hmissing, rfl⟩ := hmem
      refine .inr ⟨_, (mem_missingHooks.mp hmissing).1, ?_⟩
      rw [hookAt_of_missing h hmissing, he]
      rfl
    · left
      rw [hookAt_of_not_missing h fun h hh heq => hmem ⟨h, hh, heq⟩, he]

theorem hasGwHook_of_installInto (h : installInto v = .ok (some w)) :
    ∀ h ∈ requiredHooks, hasGwHook w h.1 = true := by
  rintro ⟨e, command⟩ hrequired
  cases hhook : hasGwHook v e with
  | false =>
    exact hasGwHook_of_withEntry (isGwEntry_newEntry _ hrequired)
      (hookAt_of_missing h (mem_missingHooks.mpr ⟨hrequired, hhook⟩))
  | true =>
    rw [hasGwHook_eq, hookAt_of_not_missing h, ← hasGwHook_eq, hhook]
    rintro ⟨_, command'⟩ hmissing rfl
    rw [(mem_missingHooks.mp hmissing).2] at hhook
    cases hhook

theorem missingHooks_eq_nil (h : ∀ h ∈ requiredHooks, hasGwHook v h.1 = true) :
    missingHooks v = [] := by
  rw [missingHooks, List.filter_eq_nil_iff]
  intro hook hhook
  rw [h hook hhook]
  exact Bool.false_ne_true

/-- gw's entry is what `uninstall` takes away again. -/
theorem withoutGw_withEntry {value : Option Json} (hcommand : isGwEntry (newEntry command) = true)
    (h : ListsEntries value) : withoutGw (withEntry command value) = withoutGw value := by
  rcases h with rfl | ⟨entries, rfl⟩
  · simp [withEntry, withoutGw, hcommand]
  · simp [withEntry, withoutGw, hcommand]

/-- After an installation, `uninstall` leaves what was there without gw's entries. -/
theorem WithoutGw.of_installInto (h : installInto v = .ok (some w)) :
    ∃ u, uninstallFrom w = some u ∧ WithoutGw v u := by
  obtain ⟨u, hu, hmembers, hhooks⟩ := uninstallFrom_of_hasGwHook (e := "Stop") (by decide)
    (hasGwHook_of_installInto h ("Stop", "gw elden --event stop") (by decide))
  refine ⟨u, hu, ?_, ?_, ?_⟩
  · intro k hk
    rw [hmembers k hk, get_of_installInto h hk]
  · intro e he
    rw [hhooks, if_neg he, (Keeps.of_installInto h).others e he]
  · intro e he hlists
    rw [hhooks, if_pos he]
    by_cases hmem : ∃ h ∈ missingHooks v, h.1 = e
    · obtain ⟨⟨_, command⟩, hmissing, rfl⟩ := hmem
      rw [hookAt_of_missing h hmissing,
        withoutGw_withEntry (isGwEntry_newEntry _ (mem_missingHooks.mp hmissing).1) hlists]
    · rw [hookAt_of_not_missing h fun h hh heq => hmem ⟨h, hh, heq⟩]

/-! ## The settings file -/

variable {file : SettingsFile}

/-- A failed installation leaves the file; after one that succeeds, nothing is missing. -/
theorem install_cases (file : SettingsFile) :
    ((∃ e, (install file).1 = .error e) ∧ (install file).2 = file) ∨
      ∃ v, file.load = .ok v ∧ (install file).1 = .ok () ∧
        (installInto v = .ok none ∧ (install file).2 = file ∨
          ∃ w, installInto v = .ok (some w) ∧ (install file).2 = .settings w) := by
  rw [install]
  cases hload : file.load with
  | error e => exact .inl ⟨⟨e, rfl⟩, rfl⟩
  | ok v =>
    dsimp only
    cases hinto : installInto v with
    | error e => exact .inl ⟨⟨e, rfl⟩, rfl⟩
    | ok result =>
      right
      cases result with
      | none => exact ⟨v, rfl, rfl, .inl ⟨hinto, rfl⟩⟩
      | some w => exact ⟨v, rfl, rfl, .inr ⟨w, hinto, rfl⟩⟩

theorem install_of_installed (hload : file.load = .ok v) (h : installInto v = .ok none) :
    install file = (.ok (), file) := by
  rw [install, hload]
  dsimp only
  rw [h]

theorem uninstall_of_uninstallFrom (h : uninstallFrom v = some w) :
    uninstall (.settings v) = (.ok (), .settings w) := by
  rw [uninstall, SettingsFile.load]
  · dsimp only
    rw [h]
  · intro habsent
    cases habsent

theorem uninstall_of_none (h : uninstallFrom v = none) :
    uninstall (.settings v) = (.ok (), .settings v) := by
  rw [uninstall, SettingsFile.load]
  · dsimp only
    rw [h]
  · intro habsent
    cases habsent

/-- A fresh file is not complete. -/
theorem settings_of_installed (hload : file.load = .ok v) (h : installInto v = .ok none) :
    file = .settings v := by
  cases file with
  | settings value =>
    cases hload
    rfl
  | absent =>
    cases hload
    have hstop := hasGwHook_of_installed h ("Stop", "gw elden --event stop") (by decide)
    rw [hasGwHook_eq] at hstop
    cases hstop
  | unreadable | malformed => cases hload

/-- A failed installation leaves the file. -/
theorem install_of_error {e : String} (h : (install file).1 = .error e) :
    (install file).2 = file := by
  rcases install_cases file with ⟨-, hfile⟩ | ⟨v, -, hok, -⟩
  · exact hfile
  · rw [hok] at h
    cases h

/-- An installation keeps what was there, and then every hook is there. -/
theorem keeps_of_install (hload : file.load = .ok v) (hok : (install file).1 = .ok ()) :
    ∃ w, (install file).2.load = .ok w ∧ Keeps v w ∧
      ∀ h ∈ requiredHooks, hasGwHook w h.1 = true := by
  rcases install_cases file with ⟨⟨e, herror⟩, -⟩ | ⟨v', hload', -, hcases⟩
  · rw [hok] at herror
    cases herror
  · cases hload.symm.trans hload'
    rcases hcases with ⟨hnone, hfile⟩ | ⟨w, hinto, hfile⟩
    · exact ⟨v, by rw [hfile, hload], .refl v, hasGwHook_of_installed hnone⟩
    · exact ⟨w, by rw [hfile]; rfl, .of_installInto hinto, hasGwHook_of_installInto hinto⟩

/-- Installing twice is installing once. -/
theorem install_install (file : SettingsFile) :
    (install (install file).2).2 = (install file).2 := by
  rcases install_cases file with ⟨-, hfile⟩ | ⟨v, hload, -, ⟨-, hfile⟩ | ⟨w, hinto, hfile⟩⟩
  · rw [hfile, hfile]
  · rw [hfile, hfile]
  · have hdone : installInto w = .ok none :=
      installInto_eq_none.mpr (missingHooks_eq_nil (hasGwHook_of_installInto hinto))
    have hload : (SettingsFile.settings w).load = .ok w := rfl
    rw [hfile, install_of_installed hload hdone]

/-- Uninstalling takes gw's entries away, and nothing where there are none. -/
theorem uninstall_settings (v : Json) :
    (∀ e ∈ hookEvents, hasGwHook v e = false) ∧ (uninstall (.settings v)).2 = .settings v ∨
      ∃ w, (uninstall (.settings v)).2 = .settings w ∧ (∀ k, k ≠ "hooks" → w.get k = v.get k) ∧
        ∀ event, hookAt w event =
          if event ∈ hookEvents then withoutGw (hookAt v event) else hookAt v event := by
  by_cases hhook : ∃ e ∈ hookEvents, hasGwHook v e = true
  · obtain ⟨e, he, hhook⟩ := hhook
    obtain ⟨w, hw, hmembers, hhooks⟩ := uninstallFrom_of_hasGwHook he hhook
    exact .inr ⟨w, by rw [uninstall_of_uninstallFrom hw], hmembers, hhooks⟩
  · have hnone : ∀ e ∈ hookEvents, hasGwHook v e = false := fun e he =>
      Bool.eq_false_of_not_eq_true fun h => hhook ⟨e, he, h⟩
    exact .inl ⟨hnone, by rw [uninstall_of_none (uninstallFrom_eq_none hnone)]⟩

/-- Uninstalling after an installation gives back what was there, without gw's entries. -/
theorem uninstall_install (hload : file.load = .ok v) (hok : (install file).1 = .ok ()) :
    ∃ u, (uninstall (install file).2).2 = .settings u ∧ WithoutGw v u := by
  rcases install_cases file with ⟨⟨e, herror⟩, -⟩ | ⟨v', hload', -, hcases⟩
  · rw [hok] at herror
    cases herror
  · cases hload.symm.trans hload'
    rcases hcases with ⟨hnone, hfile⟩ | ⟨w, hinto, hfile⟩
    · rw [hfile, settings_of_installed hload hnone]
      have hstop : hasGwHook v "Stop" = true :=
        hasGwHook_of_installed hnone ("Stop", "gw elden --event stop") (by decide)
      obtain ⟨u, hu, hmembers, hhooks⟩ := uninstallFrom_of_hasGwHook (by decide) hstop
      refine ⟨u, by rw [uninstall_of_uninstallFrom hu], hmembers, ?_, ?_⟩
      · intro e he
        rw [hhooks, if_neg he]
      · intro e he _
        rw [hhooks, if_pos he]
    · obtain ⟨u, hu, hwithout⟩ := WithoutGw.of_installInto hinto
      exact ⟨u, by rw [hfile, uninstall_of_uninstallFrom hu], hwithout⟩

/-- Hook installation keeps what the user has, is idempotent, and is undone up to the entries that
are gw's by their marker. -/
theorem hook_installation (file : SettingsFile) :
    (∀ e, (install file).1 = .error e → (install file).2 = file) ∧
    (∀ v, file.load = .ok v → (install file).1 = .ok () → ∃ w, (install file).2.load = .ok w ∧
      Keeps v w ∧ ∀ h ∈ requiredHooks, hasGwHook w h.1 = true) ∧
    (install (install file).2).2 = (install file).2 ∧
    (∀ h ∈ requiredHooks, isGwEntry (newEntry h.2) = true) ∧
    (∀ v, file = .settings v →
      (∀ e ∈ hookEvents, hasGwHook v e = false) ∧ (uninstall file).2 = file ∨
      ∃ w, (uninstall file).2 = .settings w ∧ (∀ k, k ≠ "hooks" → w.get k = v.get k) ∧
        ∀ event, hookAt w event =
          if event ∈ hookEvents then withoutGw (hookAt v event) else hookAt v event) ∧
    (∀ v, file.load = .ok v → (install file).1 = .ok () →
      ∃ u, (uninstall (install file).2).2 = .settings u ∧ WithoutGw v u) := by
  refine ⟨fun _ => install_of_error, fun _ => keeps_of_install, install_install file,
    isGwEntry_newEntry, ?_, fun _ => uninstall_install⟩
  rintro v rfl
  exact uninstall_settings v

/-- The commands registered for an event. -/
def commandsAt (settings : Json) (event : String) : List String :=
  (((hookAt settings event).bind Json.asArray).getD []).flatMap fun entry =>
    (((entry.get "hooks").bind Json.asArray).getD []).filterMap fun hook =>
      (hook.get "command").bind jsonStr

/-- A command of the user's own that shares an entry with gw's is removed with it. -/
theorem merged_command_removed : ¬ ∀ (v w : Json) (event command : String),
    (uninstall (.settings v)).2 = .settings w → command ∈ commandsAt v event →
      (∀ h ∈ requiredHooks, command ≠ h.2) → command ∈ commandsAt w event := by
  intro hclaim
  let v : Json := .object [("hooks", .object [("Stop", .array [.object [("hooks", .array [
    .object [("command", .string "gw elden --event stop")],
    .object [("command", .string "notify")]])]])])]
  have hhook : hasGwHook v "Stop" = true := by decide +kernel
  obtain ⟨w, hw, -, hhooks⟩ := uninstallFrom_of_hasGwHook (e := "Stop") (by decide) hhook
  have hcommand : "notify" ∈ commandsAt w "Stop" :=
    hclaim v w "Stop" "notify" (by rw [uninstall_of_uninstallFrom hw]) (by decide +kernel)
      (by decide)
  have hnone : hookAt w "Stop" = none := by
    rw [hhooks, if_pos (by decide)]
    exact Option.isNone_iff_eq_none.mp (by decide +kernel)
  rw [commandsAt, hnone] at hcommand
  cases hcommand

end

end GreaterWill
