import GreaterWill.Daemon.LockRebuild

/-!
# The sessions at the startup of the daemon

Which of the `gw-*` sessions that are alive `reconcile` kills (its step 2), and what becomes of the
others. A session goes by the newest run that claims it: it is killed if that run is over, or if there
is no such run, since a run whose `meta.json` can be read was loaded and is not there to adopt. In the
end a session that was spared has a run that goes on, but for the runs that the later passes end
(`sessions_of_startup`).
-/

namespace GreaterWill

namespace RunRegistry

section
variable (host : Host) (io : ReconcileIo) (disk : RunsDir)

/-- Step 2 for one session, and whether it is killed. -/
def processSession (r : RunRegistry) (tmuxName : String) : RunRegistry × Bool :=
  match r.findRunByTmuxSession tmuxName with
  | some (_, status) => (r, status.isTerminal)
  | none =>
    match r.tryAdoptOrphan host io disk tmuxName with
    | some r' => (r', false)
    | none => (r, true)

end

variable {host : Host} {io : ReconcileIo} {disk : RunsDir} {r r' : RunRegistry} {e : RunEntry}
  {id tmuxName : String}

/-- It is the step 2 of `reconcile`. -/
theorem processSessions_eq_foldl : r.processSessions host io disk =
    io.liveSessions.foldl (fun r name => (r.processSession host io disk name).1) r := by
  rw [processSessions]
  congr 1
  funext r name
  rw [processSession]
  cases r.findRunByTmuxSession name with
  | some found => rfl
  | none => cases r.tryAdoptOrphan host io disk name <;> rfl

end RunRegistry
end GreaterWill
