import Mathlib.Order.Basic

/-!
# Watchdog configuration

The thresholds of the watchdog as `WatchdogConfig::from_env` reads them. Most of them are clamped,
and the structure carries the bounds the other modules rely on, so that every configuration in this
development is one that `from_env` can produce. Times are in seconds.
-/

namespace GreaterWill

structure WatchdogConfig where
  idleNudgeSecs : Nat
  idleKillSecs : Nat
  errorStallThresholdSecs : Nat
  artifactScanIntervalSecs : Nat
  pipelineTimeoutSecs : Nat
  checkpointPollIntervalSecs : Nat
  maxCrashRetries : Nat
  errorConfirmMediumSecs : Nat
  errorConfirmHighSecs : Nat
  promptAcceptEnabled : Bool
  promptAcceptDebounceSecs : Nat
  crashWindowSecs : Nat
  crashStabilitySecs : Nat
  loopStateWarmupSecs : Nat
  restartCooldownSecs : Nat
  maxTotalCrashRetries : Nat
  one_le_maxCrashRetries : 1 ≤ maxCrashRetries
  one_le_crashWindowSecs : 1 ≤ crashWindowSecs
  crashWindowSecs_le : crashWindowSecs ≤ 7200
  le_crashStabilitySecs : 60 ≤ crashStabilitySecs

/-- `u64::clamp`. -/
def clamp (x lo hi : Nat) : Nat := if x < lo then lo else if hi < x then hi else x

theorem le_clamp {x lo hi : Nat} (h : lo ≤ hi) : lo ≤ clamp x lo hi := by
  rw [clamp]
  split <;> [exact Nat.le_refl lo; split <;> omega]

theorem clamp_le {x lo hi : Nat} (h : lo ≤ hi) : clamp x lo hi ≤ hi := by
  rw [clamp]
  split <;> [exact h; split <;> omega]

/-- Load the configuration from the environment: `env key` is the value of the variable, if it is
set and is a number. -/
def WatchdogConfig.fromEnv (env : String → Option Nat) : WatchdogConfig where
  idleNudgeSecs := clamp ((env "GW_IDLE_NUDGE_SECS").getD 300) 30 3600
  idleKillSecs := clamp ((env "GW_IDLE_KILL_SECS").getD 1800) 60 86400
  errorStallThresholdSecs := clamp ((env "GW_ERROR_STALL_THRESHOLD_SECS").getD 60) 10 3600
  artifactScanIntervalSecs := clamp ((env "GW_ARTIFACT_SCAN_INTERVAL_SECS").getD 15) 5 300
  pipelineTimeoutSecs := clamp ((env "GW_PIPELINE_TIMEOUT_SECS").getD (6 * 3600)) 60 86400
  checkpointPollIntervalSecs := clamp ((env "GW_CHECKPOINT_POLL_INTERVAL_SECS").getD 10) 1 300
  maxCrashRetries := clamp ((env "GW_MAX_CRASH_RETRIES").getD 5) 1 20
  errorConfirmMediumSecs := (env "GW_ERROR_CONFIRM_MEDIUM_SECS").getD (15 * 60)
  errorConfirmHighSecs := (env "GW_ERROR_CONFIRM_HIGH_SECS").getD (5 * 60)
  promptAcceptEnabled := (env "GW_PROMPT_ACCEPT").getD 1 ≠ 0
  promptAcceptDebounceSecs := (env "GW_PROMPT_ACCEPT_DEBOUNCE_SECS").getD 5
  crashWindowSecs := clamp ((env "GW_CRASH_WINDOW_SECS").getD 900) 60 7200
  crashStabilitySecs := clamp ((env "GW_CRASH_STABILITY_SECS").getD 1800) 60 7200
  loopStateWarmupSecs := clamp ((env "GW_LOOP_STATE_WARMUP_SECS").getD 300) 30 1800
  restartCooldownSecs := clamp ((env "GW_RESTART_COOLDOWN_SECS").getD 60) 5 600
  maxTotalCrashRetries := clamp ((env "GW_MAX_TOTAL_CRASH_RETRIES").getD 10) 2 50
  one_le_maxCrashRetries := le_clamp (by decide)
  one_le_crashWindowSecs := Nat.le_trans (by decide) (le_clamp (by decide))
  crashWindowSecs_le := clamp_le (by decide)
  le_crashStabilitySecs := le_clamp (by decide)

end GreaterWill
