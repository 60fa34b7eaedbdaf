import GreaterWill.Daemon.Ops
import GreaterWill.Daemon.QueueAgreement
import GreaterWill.Daemon.ReconcileSpec

/-!
# Runs by a prefix of their id

`find_by_prefix` looks for a run among the entries and `find_pending_by_prefix` among the pending
runs; each finds a run if it is the only one whose id starts with the prefix. The second one takes
the empty prefix too. They find the same run as long as the pending run has an entry.
-/

namespace GreaterWill

/-- `str::starts_with`. -/
def StartsWith (pfx id : String) : Prop := pfx.toList <+: id.toList

instance (pfx id : String) : Decidable (StartsWith pfx id) :=
  inferInstanceAs (Decidable (_ <+: _))

theorem startsWith_empty {id : String} : StartsWith "" id := List.nil_prefix

namespace RunRegistry

section
variable (host : Host) (r : RunRegistry) (pfx : String) (now : DateTime)

/-- The entries whose run id starts with the prefix. -/
def runsWith : List RunEntry := (r.runs.entries.map (·.2)).filter (StartsWith pfx ·.runId)

/-- The pending runs whose id starts with the prefix. -/
def pendingWith : List PendingRun := r.pendingEntries.filter (StartsWith pfx ·.runId)

/-- What the lookups are to find, and `StopRun` and `RemoveQueued` to act on. -/
structure PrefixExact : Prop where
  run : ∀ e, r.findByPrefix pfx = some e → r.runsWith pfx = [e]
  pending : ∀ id hash, r.findPendingByPrefix pfx = some (id, hash) →
    ∃ p ∈ r.queue hash, r.pendingWith pfx = [p] ∧ p.runId = id
  empty : pfx = "" → r.findByPrefix pfx = none ∧ r.findPendingByPrefix pfx = none
  agree : ∀ e id hash, r.findByPrefix pfx = some e → r.findPendingByPrefix pfx = some (id, hash) →
    e.runId = id
  commands : ∀ e id staged snap, r.findByPrefix pfx = some e →
    (r.removeQueued host pfx now).1 = some (id, staged, snap) → e.runId = id

/-- The prefix is not the empty one while a single run is pending, and the pending run it is of has
an entry if it is of one entry too. -/
structure PrefixSafe : Prop where
  empty : pfx = "" → r.pendingEntries.length ≠ 1
  entry : ∀ p e, r.pendingWith pfx = [p] → r.runsWith pfx = [e] → pfx ≠ "" →
    (r.get p.runId).isSome = true

end

variable {host : Host} {r r' : RunRegistry} {pfx id hash : String} {now : DateTime} {e : RunEntry}
  {p : PendingRun} {op : Op}

/-! ## What the lookups find -/

theorem findByPrefix_eq_some :
    r.findByPrefix pfx = some e ↔ pfx ≠ "" ∧ r.runsWith pfx = [e] := by
  have hfilter : (r.runs.entries.map (·.2)).filter (fun e =>
      pfx.toList.isPrefixOf e.runId.toList) = r.runsWith pfx := by
    refine List.filter_congr fun e _ => ?_
    rw [Bool.eq_iff_iff, decide_eq_true_eq, List.isPrefixOf_iff_prefix, StartsWith]
  unfold findByPrefix
  by_cases hempty : pfx = ""
  · simp [hempty]
  · rw [if_neg hempty]
    split
    · next e' hfound =>
      have hruns : r.runsWith pfx = [e'] := hfilter.symm.trans hfound
      simp [hruns, hempty]
    · next hother =>
      refine iff_of_false (by simp) ?_
      intro ⟨_, hruns⟩
      exact hother e (hfilter.trans hruns)

/-- The pending runs with the prefix, as `find_pending_by_prefix` collects them. -/
def pendingMatches (r : RunRegistry) (pfx : String) : List (String × String) :=
  r.pendingQueues.entries.flatMap fun q =>
    (q.2.filter (StartsWith pfx ·.runId)).map fun p => (p.runId, q.1)

theorem map_pendingMatches :
    (r.pendingMatches pfx).map (·.1) = (r.pendingWith pfx).map (·.runId) := by
  rw [pendingMatches, pendingWith, pendingEntries, AList.elems, List.filter_flatMap,
    List.map_flatMap, List.map_flatMap]
  simp only [List.map_map]
  rfl

theorem findPendingByPrefix_eq_some :
    r.findPendingByPrefix pfx = some (id, hash) ↔ r.pendingMatches pfx = [(id, hash)] := by
  have hmatches : (r.pendingQueues.entries.flatMap fun q =>
      (q.2.filter fun p => pfx.toList.isPrefixOf p.runId.toList).map fun p => (p.runId, q.1)) =
        r.pendingMatches pfx := by
    rw [pendingMatches]
    congr 1
    funext q
    congr 1
    refine List.filter_congr fun p _ => ?_
    rw [Bool.eq_iff_iff, decide_eq_true_eq, List.isPrefixOf_iff_prefix, StartsWith]
  unfold findPendingByPrefix
  split
  · next found hfound =>
    have honly : r.pendingMatches pfx = [found] := hmatches.symm.trans hfound
    simp [honly]
  · next hother =>
    refine iff_of_false (by simp) ?_
    intro honly
    exact hother (id, hash) (hmatches.trans honly)

/-- The run that is found is pending in the queue of the repo. -/
theorem pending_of_findPendingByPrefix (h : r.findPendingByPrefix pfx = some (id, hash)) :
    ∃ p ∈ r.queue hash, r.pendingWith pfx = [p] ∧ p.runId = id := by
  rw [findPendingByPrefix_eq_some] at h
  have hids : (r.pendingWith pfx).map (·.runId) = [id] := by
    rw [← map_pendingMatches, h, List.map_singleton]
  obtain ⟨p, hwith, hid⟩ := List.map_eq_singleton_iff.mp hids
  have hmem : (id, hash) ∈ r.pendingMatches pfx := h ▸ List.mem_singleton_self _
  obtain ⟨⟨hash', q⟩, hq, hp⟩ := List.mem_flatMap.mp hmem
  obtain ⟨p', hp', heq⟩ := List.mem_map.mp hp
  obtain ⟨rfl, rfl⟩ := Prod.mk.inj heq
  obtain ⟨hpq, hstarts⟩ := List.mem_filter.mp hp'
  have hqueue : p' ∈ r.queue hash' := by
    rw [queue, AList.mem_entries_iff.mp hq, Option.getD_some]
    exact hpq
  have hsame : p' ∈ r.pendingWith pfx :=
    List.mem_filter.mpr ⟨mem_pendingEntries.mpr ⟨hash', hqueue⟩, hstarts⟩
  rw [hwith, List.mem_singleton] at hsame
  exact ⟨p', hqueue, hsame ▸ hwith, rfl⟩

/-- A pending run that is the only one with the prefix is found. -/
theorem findPendingByPrefix_of_pending (h : r.pendingWith pfx = [p]) :
    ∃ hash, r.findPendingByPrefix pfx = some (p.runId, hash) := by
  have hids : (r.pendingMatches pfx).map (·.1) = [p.runId] := by
    rw [map_pendingMatches, h, List.map_singleton]
  obtain ⟨⟨id, hash⟩, hmatches, rfl⟩ := List.map_eq_singleton_iff.mp hids
  exact ⟨hash, findPendingByPrefix_eq_some.mpr hmatches⟩

theorem pendingWith_empty : r.pendingWith "" = r.pendingEntries := by
  rw [pendingWith, List.filter_eq_self]
  exact fun p _ => decide_eq_true startsWith_empty

theorem mem_runsWith (hkeyed : r.Keyed) :
    e ∈ r.runsWith pfx ↔ r.get e.runId = some e ∧ StartsWith pfx e.runId := by
  rw [runsWith, List.mem_filter, decide_eq_true_eq]
  refine and_congr_left fun _ => ?_
  rw [List.mem_map]
  constructor
  · rintro ⟨⟨id, e'⟩, hmem, rfl⟩
    have hget := get_iff_mem_entries.mpr hmem
    rwa [hkeyed id e' hget]
  · intro hget
    exact ⟨⟨e.runId, e⟩, get_iff_mem_entries.mp hget, rfl⟩

/-- What `RemoveQueued` removes is what `find_pending_by_prefix` finds. -/
theorem findPendingByPrefix_of_removeQueued {staged : Option StagedStatus} {snap : QueueSnapshot}
    (h : (r.removeQueued host pfx now).1 = some (id, staged, snap)) :
    ∃ hash, r.findPendingByPrefix pfx = some (id, hash) := by
  unfold removeQueued at h
  cases hfind : r.findPendingByPrefix pfx with
  | none =>
    rw [hfind] at h
    cases h
  | some found =>
    obtain ⟨fullId, hash⟩ := found
    rw [hfind] at h
    cases h
    exact ⟨hash, rfl⟩

/-- The lookups are exact and agree if and only if the prefix is safe. -/
theorem prefix_exact_iff (host : Host) (r : RunRegistry) (pfx : String) (now : DateTime)
    (hkeyed : r.Keyed) : r.PrefixExact host pfx now ↔ r.PrefixSafe pfx := by
  constructor
  · intro H
    refine ⟨fun hempty hone => ?_, fun p e hp he hne => ?_⟩
    · subst hempty
      obtain ⟨p, hp⟩ := List.length_eq_one_iff.mp hone
      obtain ⟨hash, hfound⟩ := findPendingByPrefix_of_pending (pendingWith_empty.trans hp)
      rw [(H.empty rfl).2] at hfound
      cases hfound
    · obtain ⟨hash, hfound⟩ := findPendingByPrefix_of_pending hp
      have hagree := H.agree e _ _ (findByPrefix_eq_some.mpr ⟨hne, he⟩) hfound
      have hget := ((mem_runsWith hkeyed).mp (he ▸ List.mem_singleton_self e)).1
      rw [← hagree, hget, Option.isSome_some]
  · intro H
    have hagree (e : RunEntry) (id hash : String) (he : r.findByPrefix pfx = some e)
        (hid : r.findPendingByPrefix pfx = some (id, hash)) : e.runId = id := by
      obtain ⟨hne, hruns⟩ := findByPrefix_eq_some.mp he
      obtain ⟨p, -, hpending, rfl⟩ := pending_of_findPendingByPrefix hid
      obtain ⟨e', he'⟩ := Option.isSome_iff_exists.mp (H.entry p e hpending hruns hne)
      have hkey : e'.runId = p.runId := hkeyed p.runId e' he'
      have hstarts : StartsWith pfx p.runId := by
        have hmem : p ∈ r.pendingWith pfx := hpending ▸ List.mem_singleton_self p
        exact of_decide_eq_true (List.mem_filter.mp hmem).2
      -- the entry of the pending run has the prefix too, so it is the one that is found
      have hmem : e' ∈ r.runsWith pfx :=
        (mem_runsWith hkeyed).mpr ⟨hkey ▸ he', hkey ▸ hstarts⟩
      rw [hruns, List.mem_singleton] at hmem
      rw [← hmem, hkey]
    refine ⟨fun e he => (findByPrefix_eq_some.mp he).2,
      fun id hash h => pending_of_findPendingByPrefix h, fun hempty => ⟨?_, ?_⟩, hagree,
      fun e id staged snap he hremoved => ?_⟩
    · rw [findByPrefix, if_pos hempty]
    · cases hfind : r.findPendingByPrefix pfx with
      | none => rfl
      | some found =>
        obtain ⟨id, hash⟩ := found
        obtain ⟨p, -, hp, -⟩ := pending_of_findPendingByPrefix hfind
        subst hempty
        rw [pendingWith_empty] at hp
        exact absurd (hp ▸ rfl) (H.empty rfl)
    · obtain ⟨hash, hfound⟩ := findPendingByPrefix_of_removeQueued hremoved
      exact hagree e id hash he hfound

/-! ## Reachable registries -/

/-- Every entry is added under its run id. -/
theorem keyed_of_opStep (hkeyed : r.Keyed) (h : opStep host r op = some r') : r'.Keyed := by
  intro id e' he'
  cases he : r.get id with
  | some e =>
    obtain ⟨e'', he'', hev⟩ := opStep_evolves h he
    obtain rfl : e'' = e' := Option.some_injective _ (he''.symm.trans he')
    exact hev.runId_eq.trans (hkeyed id e he)
  | none =>
    cases hadds : op.addsRun with
    | false =>
      rw [(opStep_runsEvolve h hadds).not_added id he] at he'
      cases he'
    | true =>
      cases op with
      | registerRun =>
        obtain ⟨-, ⟨-, -, rfl⟩ | ⟨-, rfl⟩⟩ := opStep_registerRun h
        · rw [get_insert] at he'
          split at he'
          · next hid =>
            cases he'
            exact hid.symm
          · exact hkeyed id e' he'
        · exact hkeyed id e' he'
      | enqueueRun pending =>
        obtain ⟨-, rfl | ⟨epoch, rfl⟩⟩ := opStep_enqueueRun h
        · exact hkeyed id e' he'
        · change (r.pushed host pending).get id = some e' at he'
          rw [get_pushed] at he'
          split at he'
          · next hid =>
            cases he'
            exact hid.symm
          · exact hkeyed id e' he'
      | _ => cases hadds

theorem keyed_of_exec {ops : List Op} (hrun : exec (opStep host) .new ops = some r) : r.Keyed := by
  have hnew : RunRegistry.new.Keyed := by
    intro id e he
    rw [get, new, AList.lookup_empty] at he
    cases he
  exact exec_preserves (fun _ _ _ h hkeyed => keyed_of_opStep hkeyed h) hrun hnew

/-- Where queues and entries agree, only the empty prefix is to be avoided. -/
theorem prefixSafe_iff (H : QueueAgreement host r) :
    r.PrefixSafe pfx ↔ (pfx = "" → r.pendingEntries.length ≠ 1) := by
  refine ⟨fun hsafe => hsafe.empty, fun hempty => ⟨hempty, fun p e hp _ _ => ?_⟩⟩
  have hmem : p ∈ r.pendingWith pfx := hp ▸ List.mem_singleton_self p
  obtain ⟨hash, hq⟩ := mem_pendingEntries.mp (List.mem_filter.mp hmem).1
  obtain ⟨e', he', -⟩ := H.entry hash p hq
  rw [he', Option.isSome_some]

/-- One queued run, by the first half of its id. -/
theorem prefix_exact_one_run :
    ∃ r, exec (opStep .plain) .new [.enqueueRun (.plain "abcd" "one.md" "/repo")] = some r ∧
      (r.PrefixExact .plain "ab" 1 ↔ r.PrefixSafe "ab") := by
  obtain ⟨r, hrun, -⟩ := exists_of_any
    (o := exec (opStep .plain) .new [.enqueueRun (.plain "abcd" "one.md" "/repo")])
    (P := fun r => r.pendingEntries.length = 1) (by decide +kernel)
  exact ⟨r, hrun, prefix_exact_iff _ _ _ _ (keyed_of_exec hrun)⟩

/-- The empty prefix resolves to the only queued run. -/
theorem empty_prefix_finds_pending_run :
    ¬ ∀ (ops : List Op) (r : RunRegistry), exec (opStep .plain) .new ops = some r →
      r.findPendingByPrefix "" = none := by
  intro hclaim
  obtain ⟨r, hrun, hfound⟩ := exists_of_any
    (o := exec (opStep .plain) .new [.enqueueRun (.plain "abcd" "one.md" "/repo")])
    (P := fun r => r.findPendingByPrefix "" = some ("abcd", "/repo")) (by decide +kernel)
  rw [hclaim _ r hrun] at hfound
  cases hfound

end RunRegistry
end GreaterWill
