import GreaterWill.Daemon.DaemonSpec

/-!
# Terminal runs

The guard of `stage_status_locked` keeps a terminal run terminal, and nothing else writes its
outcome. Which terminal status it has, its `finished_at` and its error stay as they are for as long
as no terminal status is staged for it again.
-/

namespace GreaterWill

open RunRegistry

variable {c : DaemonConfig} {d d' : Daemon} {host : Host} {r r' r'' : RunRegistry} {a : Action}
  {op : Op}

/-- Every terminal run is still there, with the same status, `finished_at` and error. -/
def TerminalKept (r r' : RunRegistry) : Prop :=
  ∀ id e, r.get id = some e → e.status.isTerminal = true →
    ∃ e', r'.get id = some e' ∧ e'.status = e.status ∧ e'.finishedAt = e.finishedAt ∧
      e'.errorMessage = e.errorMessage

namespace TerminalKept

theorem refl (r : RunRegistry) : TerminalKept r r := fun _ e he _ => ⟨e, he, rfl, rfl, rfl⟩

theorem trans (h₁ : TerminalKept r r') (h₂ : TerminalKept r' r'') : TerminalKept r r'' := by
  intro id e he hterm
  obtain ⟨e', he', hs', hf', hm'⟩ := h₁ id e he hterm
  obtain ⟨e'', he'', hs'', hf'', hm''⟩ := h₂ id e' he' (by rw [hs', hterm])
  exact ⟨e'', he'', hs''.trans hs', hf''.trans hf', hm''.trans hm'⟩

end TerminalKept

/-- The operation stages no terminal status for a run that is terminal already. -/
def Op.EndsLive (host : Host) (r : RunRegistry) (op : Op) : Prop :=
  ∀ id ∈ op.endedIds host r, (r.get id).all (fun e => !e.status.isTerminal) = true

instance : Decidable (op.EndsLive host r) :=
  inferInstanceAs (Decidable (∀ id ∈ op.endedIds host r, _ = true))

/-- The action stages no terminal status for a run that is terminal already. -/
def EndsLive (c : DaemonConfig) (d : Daemon) (a : Action) : Prop :=
  Along (opStep c.host) (fun r op => op.EndsLive c.host r) d.registry (a.scope c d.registry).ops

instance : Decidable (EndsLive c d a) :=
  inferInstanceAs (Decidable (Along (opStep c.host) _ d.registry (a.scope c d.registry).ops))

theorem TerminalKept.of_opStep (h : opStep host r op = some r') (hlive : op.EndsLive host r) :
    TerminalKept r r' := by
  intro id e he hterm
  have hnot : id ∉ op.endedIds host r := by
    intro hended
    have hall := hlive id hended
    rw [he, Option.all_some, hterm] at hall
    cases hall
  obtain ⟨e', he', hev⟩ := opStep_evolves h he
  exact ⟨e', he', hev.outcome_eq hnot hterm⟩

theorem TerminalKept.of_exec {ops : List Op} (h : exec (opStep host) r ops = some r')
    (hlive : Along (opStep host) (fun r op => op.EndsLive host r) r ops) : TerminalKept r r' :=
  exec_relates .refl (fun _ _ _ => .trans) (fun _ _ _ hs hlive => .of_opStep hs hlive) h hlive

/-- One action. -/
theorem TerminalKept.of_step (h : daemonStep c d a = some d') (hlive : EndsLive c d a) :
    TerminalKept d.registry d'.registry :=
  .of_exec (exec_of_daemonStep h) hlive

/-- After any sequence of registry operations, and any run of the daemon, in which no terminal status
is staged for a terminal run, the runs that were terminal have kept their outcome. -/
theorem terminalKept_of_exec (c : DaemonConfig) (d : Daemon) :
    (∀ ops r, exec (opStep c.host) d.registry ops = some r →
      Along (opStep c.host) (fun r op => op.EndsLive c.host r) d.registry ops →
        TerminalKept d.registry r) ∧
    ∀ as d', exec (daemonStep c) d as = some d' →
      Along (daemonStep c) (EndsLive c) d as → TerminalKept d.registry d'.registry := by
  refine ⟨fun ops r => TerminalKept.of_exec, fun as d' hrun hlive => ?_⟩
  exact exec_relates (R := fun d d' : Daemon => TerminalKept d.registry d'.registry)
    (fun d => .refl d.registry) (fun _ _ _ => .trans) (fun _ _ _ hs hlive => .of_step hs hlive)
    hrun hlive

/-- A run is stopped, and later steps do not end it again. -/
theorem terminalKept_of_exec_stop :
    (∃ r r', exec (opStep .plain) .new [.enqueueRun (.plain "a" "one.md" "/r"),
        .stageStatus "a" .stopped none (some "stopped by user") 1] = some r ∧
      exec (opStep .plain) r [.drainNext "/r", .promoteQueued "a" 2 .acquired (.ok ()),
        .stageStatus "a" .running none none 3, .clearQueue none 4] = some r' ∧
      TerminalKept r r') ∧
    ∃ d d', exec (daemonStep ⟨.plain, 0⟩) .init ((PendingRun.plain "a" "one.md" "/r").startActions ++
        [.capturePane "a" (some "work") false, .detachRun "a", .detach "a" 1]) = some d ∧
      exec (daemonStep ⟨.plain, 0⟩) d [.updatePhase "a" (some "work") false 2] = some d' ∧
      TerminalKept d.registry d'.registry := by
  constructor
  · obtain ⟨r, hr, hsome, hlive⟩ :=
      exists_of_any (o := exec (opStep .plain) .new [.enqueueRun (.plain "a" "one.md" "/r"),
          .stageStatus "a" .stopped none (some "stopped by user") 1])
        (P := fun r => (exec (opStep .plain) r [.drainNext "/r",
            .promoteQueued "a" 2 .acquired (.ok ()), .stageStatus "a" .running none none 3,
            .clearQueue none 4]).isSome = true ∧
          Along (opStep .plain) (fun r op => op.EndsLive .plain r) r [.drainNext "/r",
            .promoteQueued "a" 2 .acquired (.ok ()), .stageStatus "a" .running none none 3,
            .clearQueue none 4]) (by decide)
    obtain ⟨r', hr'⟩ := Option.isSome_iff_exists.mp hsome
    exact ⟨r, r', hr, hr', (terminalKept_of_exec ⟨.plain, 0⟩ ⟨r, []⟩).1 _ _ hr' hlive⟩
  · obtain ⟨d, hd, hsome, hlive⟩ :=
      exists_of_any (o := exec (daemonStep ⟨.plain, 0⟩) .init
          ((PendingRun.plain "a" "one.md" "/r").startActions ++
            [.capturePane "a" (some "work") false, .detachRun "a", .detach "a" 1]))
        (P := fun d =>
          (exec (daemonStep ⟨.plain, 0⟩) d [.updatePhase "a" (some "work") false 2]).isSome = true ∧
          Along (daemonStep ⟨.plain, 0⟩) (EndsLive ⟨.plain, 0⟩) d
            [.updatePhase "a" (some "work") false 2]) (by decide)
    obtain ⟨d', hd'⟩ := Option.isSome_iff_exists.mp hsome
    exact ⟨d, d', hd, hd', (terminalKept_of_exec _ d).2 _ _ hd' hlive⟩

/-- A run is stopped by the user while Claude Code starts up; then its arc command cannot be sent,
and the run is reported as Failed. -/
theorem stopped_run_reported_failed :
    ∃ as as' d d', exec (daemonStep ⟨.plain, 0⟩) .init as = some d ∧
      exec (daemonStep ⟨.plain, 0⟩) d as' = some d' ∧
      (d.registry.get "a").any (fun e => e.status = .stopped ∧ e.finishedAt = some 1 ∧
        e.errorMessage = some "stopped (no tmux session)") = true ∧
      (d'.registry.get "a").any (fun e => e.status = .failed ∧ e.finishedAt = some 2 ∧
        e.errorMessage = some "failed to send arc command: no session") = true ∧
      ¬ TerminalKept d.registry d'.registry := by
  obtain ⟨d, hd, hstopped, hfailed⟩ :=
    exists_of_any (o := exec (daemonStep ⟨.plain, 0⟩) .init
        ((PendingRun.plain "a" "one.md" "/r").startActions.take 3 ++
          [.stopRun "a", .stopDequeue "a" 0, .stopInspect "a",
            .stopUpdate "a" "/r" false 1 (.ok ())]))
      (P := fun d => (d.registry.get "a").any (fun e => e.status = .stopped ∧
          e.finishedAt = some 1 ∧ e.errorMessage = some "stopped (no tmux session)") = true ∧
        (exec (daemonStep ⟨.plain, 0⟩) d [.sendFails "a" .request "no session" 2]).any
          (fun d' => (d'.registry.get "a").any fun e => e.status = .failed ∧
            e.finishedAt = some 2 ∧
            e.errorMessage = some "failed to send arc command: no session") = true) (by decide)
  obtain ⟨d', hd', hfailed⟩ := (Option.any_eq_true _ _).mp hfailed
  refine ⟨_, _, d, d', hd, hd', hstopped, hfailed, fun hkept => ?_⟩
  simp only [Option.any_eq_true, decide_eq_true_eq] at hstopped hfailed
  obtain ⟨e, he, hs, -⟩ := hstopped
  obtain ⟨e', he', hs', -⟩ := hfailed
  obtain ⟨e'', he'', hs'', -⟩ := hkept "a" e he (by rw [hs]; rfl)
  obtain rfl : e'' = e' := Option.some_injective _ (he''.symm.trans he')
  rw [hs, hs'] at hs''
  cases hs''

end GreaterWill
