import GreaterWill.Engine.Retry

/-!
# Results of phase groups

What the executor of phase groups reports for each group of a plan.
-/

namespace GreaterWill

/-- State of a phase group in the execution state machine. -/
inductive PhaseGroupState where
  | pending
  | preFlight
  | spawning
  | waitingReady
  | dispatching
  | running
  | completing
  | succeeded
  | failed (retries : UInt32) (error : ErrorClass)
  | skipped
  deriving DecidableEq

namespace PhaseGroupState

def isFailed : PhaseGroupState → Bool
  | failed .. => true
  | _ => false

/-- Failed by an overload of the API or by the network. -/
def isTransient : PhaseGroupState → Bool
  | failed _ .apiOverload | failed _ .networkError => true
  | _ => false

end PhaseGroupState

/-- Result of executing a phase group. -/
structure PhaseGroupResult where
  groupName : String
  state : PhaseGroupState
  sessionId : Option String
  pid : Option UInt32
  /-- In nanoseconds. -/
  duration : Nat
  retries : UInt32
  errorMessage : Option String
  phases : List String
  deriving DecidableEq

end GreaterWill
