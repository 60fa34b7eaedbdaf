import GreaterWill.Daemon.ReconcileSpec
import Mathlib.Data.List.Nodup

/-!
# Collisions of session names

`resolve_session_name_collisions` stops the runs that claim the session of another run, their
canonical owner. The losers are stopped through the general status transition, which releases the
lock of their repo: where that is the repo of an owner, the owner loses its lock. A loser is counted
if its `meta.json` could be written too.
-/

namespace GreaterWill

namespace RunRegistry

section
variable (host : Host) (io : ReconcileIo) (flushes : String → Bool)

/-- `update_status` to Stopped, and one more resolved collision if it succeeds; `flushes` says of
which runs `meta.json` can be written. -/
def stopCounted (reason : String) (acc : RunRegistry × Nat) (runId : String) : RunRegistry × Nat :=
  match acc.1.stageStatusLocked host runId .stopped none (some reason) io.now with
  | .ok (_, r) => (r, if flushes runId then acc.2 + 1 else acc.2)
  | .error _ => acc

/-- One collision with the count, as `resolveCollision` without it. -/
def resolveCollisionCounted (acc : RunRegistry × Nat) (group : String × List String) :
    RunRegistry × Nat :=
  match canonicalId group.1 with
  | none => acc
  | some canonical =>
    let reason := s!"session_name '{group.1}' collision with canonical owner '{canonical}' — " ++
      "resolved by reconciler"
    if canonical ∈ group.2 then
      group.2.foldl (fun acc runId =>
        if runId = canonical then acc else stopCounted host io flushes reason acc runId) acc
    else acc

/-- `resolve_session_name_collisions` with the number that it returns. -/
def resolveCollisionsCounted (r : RunRegistry) : RunRegistry × Nat :=
  r.findSessionNameCollisions.foldl (resolveCollisionCounted host io flushes) (r, 0)

end

/-- `c` is not over and owns the session that it is named after. -/
structure OwnsSession (r : RunRegistry) (c : RunEntry) : Prop where
  get : r.get c.runId = some c
  active : c.status.isTerminal = false
  canonical : canonicalId c.sessionName = some c.runId

/-- The run is not over and claims the session of the owner `c`. -/
structure ClaimsOf (r : RunRegistry) (c : RunEntry) (id : String) (e : RunEntry) : Prop where
  get : r.get id = some e
  active : e.status.isTerminal = false
  session : e.sessionName = c.sessionName
  other : id ≠ c.runId

/-- The run is stopped between two registries. -/
def StoppedBetween (r r' : RunRegistry) (id : String) : Prop :=
  ∃ e e', r.get id = some e ∧ e.status.isTerminal = false ∧ r'.get id = some e' ∧
    e'.status = .stopped

/-- What the resolution of the collisions is to do. -/
structure CollisionExact (host : Host) (io : ReconcileIo) (flushes : String → Bool)
    (r : RunRegistry) : Prop where
  loser : ∀ c, r.OwnsSession c → ∀ id e, r.ClaimsOf c id e →
    ∃ e', (r.resolveCollisionsCounted host io flushes).1.get id = some e' ∧ e'.status = .stopped
  others : ∀ id e, r.get id = some e → (∀ c, r.OwnsSession c → ¬ r.ClaimsOf c id e) →
    (r.resolveCollisionsCounted host io flushes).1.get id = some e
  lock : ∀ c, r.OwnsSession c → (∃ id e, r.ClaimsOf c id e) →
    repoHash host c.repoDir ∈ r.repoLocks →
    repoHash host c.repoDir ∈ (r.resolveCollisionsCounted host io flushes).1.repoLocks
  count : ∃ ids : List String, ids.Nodup ∧
    (∀ id, id ∈ ids ↔ StoppedBetween r (r.resolveCollisionsCounted host io flushes).1 id) ∧
    (r.resolveCollisionsCounted host io flushes).2 = ids.length

/-- No loser is of the repo whose lock an owner of a collision holds, and the `meta.json` of every
loser can be written. -/
structure LosersApart (host : Host) (flushes : String → Bool) (r : RunRegistry) : Prop where
  repo : ∀ c, r.OwnsSession c → (∃ id e, r.ClaimsOf c id e) →
    repoHash host c.repoDir ∈ r.repoLocks → ∀ c', r.OwnsSession c' → ∀ id e, r.ClaimsOf c' id e →
    repoHash host e.repoDir ≠ repoHash host c.repoDir
  flush : ∀ c, r.OwnsSession c → ∀ id e, r.ClaimsOf c id e → flushes id = true

variable {host : Host} {io : ReconcileIo} {flushes : String → Bool} {r r' : RunRegistry}
  {acc : RunRegistry × Nat} {id runId : String} {e e' c : RunEntry} {reason : String}

/-! ## The losers -/

theorem mem_ghostIds_iff (hkeyed : r.Keyed) :
    id ∈ r.ghostIds ↔ ∃ c, r.OwnsSession c ∧ ∃ e, r.ClaimsOf c id e := by
  rw [mem_ghostIds hkeyed]
  constructor
  · rintro ⟨e, c, hget, hactive, hgetc, hactivec, hsame, hname, hne⟩
    exact ⟨c, ⟨hgetc, hactivec, hsame ▸ hname⟩, e, hget, hactive, hsame.symm, Ne.symm hne⟩
  · rintro ⟨c, hc, e, he⟩
    exact ⟨e, c, he.get, he.active, hc.get, hc.active, he.session.symm,
      he.session ▸ hc.canonical, Ne.symm he.other⟩

/-- A group has different runs. -/
theorem nodup_losers {group : String × List String} (hkeyed : r.Keyed)
    (h : group ∈ r.findSessionNameCollisions) : (losers group).Nodup := by
  have hmembers : group.2.Nodup := by
    rw [((mem_findSessionNameCollisions hkeyed).mp h).1, claimants]
    exact (nodup_listRuns hkeyed).sublist (List.filter_sublist.map _)
  rw [losers]
  split
  · exact List.nodup_nil
  · split
    · exact hmembers.filter _
    · exact List.nodup_nil

/-- The session of the runs of a group. -/
theorem sessionName_of_mem_losers {group : String × List String} (hkeyed : r.Keyed)
    (h : group ∈ r.findSessionNameCollisions) (hid : id ∈ losers group) :
    ∃ e, r.get id = some e ∧ e.sessionName = group.1 := by
  have hmember := (mem_losers.mp hid).1
  rw [((mem_findSessionNameCollisions hkeyed).mp h).1, mem_claimants hkeyed] at hmember
  obtain ⟨e, he, -, hname⟩ := hmember
  exact ⟨e, he, hname⟩

/-- The groups have different sessions. -/
theorem pairwise_findSessionNameCollisions :
    r.findSessionNameCollisions.Pairwise fun group group' => group.1 ≠ group'.1 := by
  rw [findSessionNameCollisions]
  refine List.Pairwise.filter _ (List.pairwise_map.mpr ?_)
  exact List.nodup_dedup _

theorem nodup_ghostIds (hkeyed : r.Keyed) : r.ghostIds.Nodup := by
  rw [ghostIds, List.nodup_flatMap]
  refine ⟨fun group h => nodup_losers hkeyed h, ?_⟩
  refine pairwise_findSessionNameCollisions.imp_of_mem fun h h' hne id hid hid' => ?_
  obtain ⟨e, he, hname⟩ := sessionName_of_mem_losers hkeyed h hid
  obtain ⟨e', he', hname'⟩ := sessionName_of_mem_losers hkeyed h' hid'
  obtain rfl : e = e' := Option.some_injective _ (he.symm.trans he')
  exact hne (hname.symm.trans hname')

/-! ## The count -/

theorem stopCounted_fst : (stopCounted host io flushes reason acc runId).1 =
    acc.1.updateStatus host runId .stopped none (some reason) io.now := by
  rw [stopCounted, updateStatus, tryStage]
  cases acc.1.stageStatusLocked host runId .stopped none (some reason) io.now <;> rfl

/-- A run that has an entry can be stopped. -/
theorem stopCounted_snd (h : (acc.1.get runId).isSome = true) :
    (stopCounted host io flushes reason acc runId).2 =
      if flushes runId then acc.2 + 1 else acc.2 := by
  rw [stopCounted]
  cases hstage : acc.1.stageStatusLocked host runId .stopped none (some reason) io.now with
  | ok s => rfl
  | error e =>
    rw [get_eq_none_of_stage_error rfl hstage] at h
    cases h

theorem foldl_stopCounted {canonical : String} {l : List String}
    (h : ∀ id ∈ l, (acc.1.get id).isSome = true) :
    l.foldl (fun acc runId =>
        if runId = canonical then acc else stopCounted host io flushes reason acc runId) acc =
      (l.foldl (fun r runId =>
        if runId = canonical then r
        else r.updateStatus host runId .stopped none (some reason) io.now) acc.1,
        acc.2 + (l.filter (· ≠ canonical)).countP flushes) := by
  induction l generalizing acc with
  | nil => rfl
  | cons runId l ih =>
    obtain ⟨hfirst, hrest⟩ := List.forall_mem_cons.mp h
    rw [List.foldl_cons, List.foldl_cons]
    by_cases heq : runId = canonical
    · rw [if_pos heq, if_pos heq, List.filter_cons_of_neg (by simpa using heq)]
      exact ih hrest
    · have hstays (id : String) (hid : id ∈ l) :
          ((stopCounted host io flushes reason acc runId).1.get id).isSome = true := by
        rw [stopCounted_fst]
        exact tryStage_runsEvolve.isSome (hrest id hid)
      rw [if_neg heq, if_neg heq, List.filter_cons_of_pos (by simpa using heq), ih hstays,
        stopCounted_fst, stopCounted_snd hfirst, List.countP_cons]
      refine Prod.ext rfl ?_
      dsimp only
      split <;> omega

theorem resolveCollisionCounted_eq {group : String × List String}
    (h : ∀ id ∈ group.2, (acc.1.get id).isSome = true) :
    resolveCollisionCounted host io flushes acc group =
      (acc.1.resolveCollision host io group, acc.2 + (losers group).countP flushes) := by
  rw [resolveCollisionCounted, resolveCollision, losers]
  cases canonicalId group.1 with
  | none => rfl
  | some canonical =>
    dsimp only
    split
    · exact foldl_stopCounted h
    · rfl

/-- What is counted are the losers whose `meta.json` could be written. -/
theorem resolveCollisionsCounted_eq (hkeyed : r.Keyed) :
    r.resolveCollisionsCounted host io flushes =
      (r.resolveSessionNameCollisions host io, r.ghostIds.countP flushes) := by
  have hfold (groups : List (String × List String)) (acc : RunRegistry × Nat)
      (h : ∀ group ∈ groups, ∀ id ∈ group.2, (acc.1.get id).isSome = true) :
      groups.foldl (resolveCollisionCounted host io flushes) acc =
        (groups.foldl (fun r group => r.resolveCollision host io group) acc.1,
          acc.2 + (groups.flatMap losers).countP flushes) := by
    induction groups generalizing acc with
    | nil => rfl
    | cons group groups ih =>
      obtain ⟨hfirst, hrest⟩ := List.forall_mem_cons.mp h
      rw [List.foldl_cons, List.foldl_cons, resolveCollisionCounted_eq hfirst, List.flatMap_cons,
        List.countP_append, ← Nat.add_assoc]
      refine ih _ fun group' hgroup id hid => ?_
      obtain ⟨e, he⟩ := Option.isSome_iff_exists.mp (hrest group' hgroup id hid)
      have hsettles : Settles host (fun _ => .stopped) (losers group) acc.1
          (acc.1.resolveCollision host io group) := settles_resolveCollision group
      obtain ⟨e', he', -⟩ := hsettles.entry id e he
      rw [he', Option.isSome_some]
  rw [resolveCollisionsCounted, hfold, Nat.zero_add]
  · rfl
  · intro group hgroup id hid
    rw [((mem_findSessionNameCollisions hkeyed).mp hgroup).1, mem_claimants hkeyed] at hid
    obtain ⟨e, he, -⟩ := hid
    rw [he, Option.isSome_some]

/-! ## What is left -/

theorem get_resolveCollision_of_notMem {group : String × List String} (h : id ∉ losers group) :
    (r.resolveCollision host io group).get id = r.get id := by
  have hfold (canonical reason : String) (l : List String) (r : RunRegistry)
      (hid : id ∉ l.filter (· ≠ canonical)) :
      (l.foldl (fun r runId =>
        if runId = canonical then r
        else r.updateStatus host runId .stopped none (some reason) io.now) r).get id =
          r.get id := by
    induction l generalizing r with
    | nil => rfl
    | cons runId l ih =>
      rw [List.foldl_cons]
      by_cases heq : runId = canonical
      · rw [List.filter_cons_of_neg (by simpa using heq)] at hid
        rw [if_pos heq]
        exact ih r hid
      · rw [List.filter_cons_of_pos (by simpa using heq), List.mem_cons, not_or] at hid
        rw [if_neg heq, ih _ hid.2]
        exact get_tryStage_of_ne hid.1
  rw [losers] at h
  rw [resolveCollision]
  cases hcanonical : canonicalId group.1 with
  | none => rfl
  | some canonical =>
    rw [hcanonical] at h
    dsimp only at h ⊢
    split
    · next hmem =>
      rw [if_pos hmem] at h
      exact hfold _ _ _ _ h
    · rfl

theorem get_resolveSessionNameCollisions_of_notMem (h : id ∉ r.ghostIds) :
    (r.resolveSessionNameCollisions host io).get id = r.get id := by
  rw [ghostIds] at h
  rw [resolveSessionNameCollisions]
  generalize r.findSessionNameCollisions = groups at h
  induction groups generalizing r with
  | nil => rfl
  | cons group groups ih =>
    rw [List.flatMap_cons, List.mem_append, not_or] at h
    rw [List.foldl_cons, ih h.2, get_resolveCollision_of_notMem h.1]

theorem mem_ghostIds_iff_stoppedBetween (hkeyed : r.Keyed) :
    id ∈ r.ghostIds ↔ StoppedBetween r (r.resolveSessionNameCollisions host io) id := by
  constructor
  · intro hid
    obtain ⟨c, -, e, he⟩ := (mem_ghostIds_iff hkeyed).mp hid
    have hsettles : Settles host (fun _ => .stopped) r.ghostIds r
        (r.resolveSessionNameCollisions host io) := settles_resolveSessionNameCollisions
    obtain ⟨e', he', -, hstatus⟩ := hsettles.entry id e he.get
    rw [if_pos hid] at hstatus
    exact ⟨e, e', he.get, he.active, he', hstatus⟩
  · rintro ⟨e, e', he, hactive, he', hstopped⟩
    by_contra hid
    rw [get_resolveSessionNameCollisions_of_notMem hid, he, Option.some.injEq] at he'
    rw [he', hstopped] at hactive
    cases hactive

/-- The collisions are resolved as they are to be if and only if no loser shares the lock of an
owner and the `meta.json` of every loser can be written. -/
theorem collision_exact_iff (host : Host) (io : ReconcileIo) (flushes : String → Bool)
    (r : RunRegistry) (hkeyed : r.Keyed) :
    CollisionExact host io flushes r ↔ LosersApart host flushes r := by
  have hsettles : Settles host (fun _ => .stopped) r.ghostIds r
      (r.resolveSessionNameCollisions host io) := settles_resolveSessionNameCollisions
  have heq : r.resolveCollisionsCounted host io flushes =
      (r.resolveSessionNameCollisions host io, r.ghostIds.countP flushes) :=
    resolveCollisionsCounted_eq hkeyed
  have hghost (c : RunEntry) (hc : r.OwnsSession c) (id : String) (e : RunEntry)
      (he : r.ClaimsOf c id e) : id ∈ r.ghostIds := (mem_ghostIds_iff hkeyed).mpr ⟨c, hc, e, he⟩
  constructor
  · intro H
    refine ⟨fun c hc hlosers hlock c' hc' id e he => ?_, fun c hc id e he => ?_⟩
    · have hkept := H.lock c hc hlosers hlock
      rw [heq] at hkept
      exact ((hsettles.locks _).mp hkept).2 id (hghost c' hc' id e he) rfl e he.get
    · obtain ⟨ids, hnodup, hmem, hcount⟩ := H.count
      rw [heq] at hmem hcount
      have hperm : ids.Perm r.ghostIds :=
        (List.perm_ext_iff_of_nodup hnodup (nodup_ghostIds hkeyed)).mpr fun id =>
          (hmem id).trans (mem_ghostIds_iff_stoppedBetween hkeyed).symm
      have hall : r.ghostIds.countP flushes = r.ghostIds.length := hcount.trans hperm.length_eq
      exact List.countP_eq_length.mp hall id (hghost c hc id e he)
  · intro H
    refine ⟨fun c hc id e he => ?_, fun id e he hnot => ?_, fun c hc hlosers hlock => ?_,
      r.ghostIds, nodup_ghostIds hkeyed, fun id => ?_, ?_⟩ <;> rw [heq]
    · obtain ⟨e', he', -, hstatus⟩ := hsettles.entry id e he.get
      rw [if_pos (hghost c hc id e he)] at hstatus
      exact ⟨e', he', hstatus⟩
    · have hid : id ∉ r.ghostIds := by
        intro hid
        obtain ⟨c, hc, e', he'⟩ := (mem_ghostIds_iff hkeyed).mp hid
        obtain rfl : e = e' := Option.some_injective _ (he.symm.trans he'.get)
        exact hnot c hc he'
      exact (get_resolveSessionNameCollisions_of_notMem hid).trans he
    · refine (hsettles.locks _).mpr ⟨hlock, fun id hid _ e he => ?_⟩
      obtain ⟨c', hc', e', he'⟩ := (mem_ghostIds_iff hkeyed).mp hid
      obtain rfl : e = e' := Option.some_injective _ (he.symm.trans he'.get)
      exact H.repo c hc hlosers hlock c' hc' id e he'
    · exact mem_ghostIds_iff_stoppedBetween hkeyed
    · refine List.countP_eq_length.mpr fun id hid => ?_
      obtain ⟨c, hc, e, he⟩ := (mem_ghostIds_iff hkeyed).mp hid
      exact H.flush c hc id e he

/-! ## Two claimants -/

/-- A Running run with the session of run x. -/
def claimant (runId : String) (repoDir : PathBuf) : RunEntry :=
  { RunEntry.registered runId "one.md" repoDir (some "gw-x") none none 0 with status := .running }

/-- Run x, which holds the lock of its repo, and run y with the session of x. -/
def twoClaimants (ownerRepo otherRepo : PathBuf) : RunRegistry :=
  { RunRegistry.new with
    runs := ((∅ : Map String RunEntry).insert "y" (claimant "y" otherRepo)).insert "x"
      (claimant "x" ownerRepo)
    repoLocks := {ownerRepo} }

theorem get_twoClaimants {ownerRepo otherRepo : PathBuf} :
    (twoClaimants ownerRepo otherRepo).get id =
      if id = "x" then some (claimant "x" ownerRepo)
      else if id = "y" then some (claimant "y" otherRepo) else none := by
  rw [get, twoClaimants]
  dsimp only
  rw [AList.lookup_insert_eq_ite, AList.lookup_insert_eq_ite, AList.lookup_empty]

theorem keyed_twoClaimants {ownerRepo otherRepo : PathBuf} :
    (twoClaimants ownerRepo otherRepo).Keyed := by
  intro id e he
  rw [get_twoClaimants] at he
  split at he
  · next hid =>
    cases he
    exact hid.symm
  · split at he
    · next hid =>
      cases he
      exact hid.symm
    · cases he

/-- The claimants are of different repos. -/
theorem collision_exact_two_repos :
    CollisionExact .plain ⟨fun _ => .acquired, [], fun _ => none, false, fun _ => false,
        fun _ => true, 0⟩ (fun _ => true) (twoClaimants "/r" "/s") ↔
      LosersApart .plain (fun _ => true) (twoClaimants "/r" "/s") :=
  collision_exact_iff _ _ _ _ keyed_twoClaimants

/-- The claimants are of one repo: the owner loses the lock. And a loser is stopped that is not
counted, its `meta.json` not being written. -/
theorem owner_loses_lock :
    (¬ ∀ (host : Host) (io : ReconcileIo) (r : RunRegistry) (c : RunEntry), r.Keyed →
      r.OwnsSession c → (∃ id e, r.ClaimsOf c id e) → repoHash host c.repoDir ∈ r.repoLocks →
      repoHash host c.repoDir ∈
        (r.resolveCollisionsCounted host io fun _ => true).1.repoLocks) ∧
    ¬ ∀ (host : Host) (io : ReconcileIo) (flushes : String → Bool) (r : RunRegistry),
      r.Keyed → (∃ id, StoppedBetween r (r.resolveCollisionsCounted host io flushes).1 id) →
      (r.resolveCollisionsCounted host io flushes).2 ≠ 0 := by
  let io : ReconcileIo := ⟨fun _ => .acquired, [], fun _ => none, false, fun _ => false,
    fun _ => true, 0⟩
  have howns : (twoClaimants "/r" "/r").OwnsSession (claimant "x" "/r") :=
    ⟨get_twoClaimants, rfl, by decide⟩
  have hclaims : (twoClaimants "/r" "/r").ClaimsOf (claimant "x" "/r") "y" (claimant "y" "/r") :=
    ⟨get_twoClaimants, rfl, rfl, by decide⟩
  constructor
  · intro hclaim
    have hlock := hclaim .plain io _ _ keyed_twoClaimants howns ⟨_, _, hclaims⟩ (by decide)
    exact absurd hlock (by decide +kernel)
  · intro hclaim
    have hkeyed : (twoClaimants "/r" "/r").Keyed := keyed_twoClaimants
    refine hclaim .plain io (fun _ => false) _ hkeyed ⟨"y", ?_⟩ ?_
    · rw [resolveCollisionsCounted_eq hkeyed, ← mem_ghostIds_iff_stoppedBetween hkeyed,
        mem_ghostIds_iff hkeyed]
      exact ⟨_, howns, _, hclaims⟩
    · rw [resolveCollisionsCounted_eq hkeyed]
      exact List.countP_eq_zero.mpr fun _ _ => Bool.false_ne_true

end RunRegistry
end GreaterWill
