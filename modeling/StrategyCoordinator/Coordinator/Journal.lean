import StrategyCoordinator.Coordinator.Solvers

/-!
# The journal of the coordinator

The journal lists in one order what happened to the backends and approximations, and what was
logged about it. Events say that an object was built, was run or was dropped, each by its
serial number, and that a checkpoint file was handed to a run. Log records carry a level, a
message and named fields.
-/

namespace StrategyCoordinator

/-- An object made by the solver kit, by its part in the optimization. -/
inductive Role
  | curvature
  | interiorPoint (target : TargetKind)
  | trustRegion
  | asymptotes
deriving DecidableEq

/-- Something that happened to an object, or to a checkpoint file. -/
inductive Event
  | built (role : Role) (serial : Nat)
  | ran (role : Role) (serial : Nat)
  | dropped (role : Role) (serial : Nat)
  | checkpoint (path : String)
deriving DecidableEq

/-- How important a log record is. -/
inductive LogLevel
  | debug
  | info
  | warn
  | error
deriving DecidableEq

/-- What the coordinator logs. -/
inductive LogRecord
  | refused (error : OptimizerError)
  | started (algorithm : Algorithm) (state : BackendState)
  | finished (state : BackendState)
  | buildingSubproblem (kind : QuasiNewtonKind) (size : Nat)
  | buildingInteriorPoint (target : TargetKind)
  | buildingTrustRegion
  | buildingAsymptotes
  | discardingInteriorPoint
  | discardingTrustRegion
  | discardingAsymptotes
  | boundSubproblemReplaced
  | foreignSubproblem
  | replacingSubproblem
  | clearingSubproblem
deriving DecidableEq

namespace LogRecord

/-- The level of a record. -/
def level : LogRecord → LogLevel
  | .refused _ => .error
  | .started _ _ | .finished _ => .info
  | .foreignSubproblem => .warn
  | _ => .debug

/-- The message of a record. -/
def message : LogRecord → String
  | .refused error => error.message
  | .started _ _ => "Starting optimization"
  | .finished _ => "Optimization finished"
  | .buildingSubproblem _ _ => "building trust-region subproblem"
  | .buildingInteriorPoint _ => "building interior-point backend"
  | .buildingTrustRegion => "building trust-region backend"
  | .buildingAsymptotes => "building MMA backend"
  | .discardingInteriorPoint => "discarding interior-point backend"
  | .discardingTrustRegion => "discarding trust-region backend"
  | .discardingAsymptotes => "discarding MMA backend"
  | .boundSubproblemReplaced => "trust-region subproblem was replaced"
  | .foreignSubproblem =>
    "Trust-region subproblem wraps a different problem than the optimizer"
  | .replacingSubproblem => "replacing trust-region subproblem"
  | .clearingSubproblem => "clearing trust-region subproblem"

/-- The named fields of a record. -/
def fields : LogRecord → List (String × String)
  | .started algorithm state => [("algorithm", algorithm.text), ("state", state.text)]
  | .finished state => [("state", state.text)]
  | .buildingSubproblem kind size =>
    [("qn_type", kind.text), ("subspace_size", toString size)]
  | .buildingInteriorPoint target => [("target", target.text)]
  | _ => []

end LogRecord

/-- One entry of the journal. -/
inductive JournalEntry
  | event (event : Event)
  | log (record : LogRecord)
deriving DecidableEq

namespace JournalEntry

/-- The event of an entry, if it is one. -/
def event? : JournalEntry → Option Event
  | .event e => some e
  | .log _ => none

/-- The log record of an entry, if it is one. -/
def record? : JournalEntry → Option LogRecord
  | .event _ => none
  | .log r => some r

end JournalEntry

/-- What happened and what was logged, in order. -/
abbrev Journal :=
  List JournalEntry

namespace Journal

/-- The events of a journal. -/
def events (journal : Journal) : List Event :=
  journal.filterMap JournalEntry.event?

/-- The log records of a journal. -/
def records (journal : Journal) : List LogRecord :=
  journal.filterMap JournalEntry.record?

/-- The events of two journals follow each other. -/
theorem events_append (first second : Journal) :
    Journal.events (first ++ second) = first.events ++ second.events :=
  List.filterMap_append

/-- The log records of two journals follow each other. -/
theorem records_append (first second : Journal) :
    Journal.records (first ++ second) = first.records ++ second.records :=
  List.filterMap_append

end Journal

end StrategyCoordinator
