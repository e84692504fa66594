import StrategyCoordinator.Coordinator.Workshop

/-!
# The state of the coordinator

The live backends are those of one strategy at a time. A shared model is held by the
coordinator's own handle, by the live trust-region backends that were built on it, and by
handles that callers keep under names. When a holder lets go and no other holder is left, the
model leaves its shelf and its curvature approximation is dropped.

Backends are discarded outer one first. The model they were bound to is let go after both.
-/

namespace StrategyCoordinator

variable {R : Type}

/-- The live backends, always exactly those of one strategy. -/
inductive Backends (kit : SolverKit R)
  | uninitialized
  | interiorPoint (ip : LiveInteriorPoint kit)
  | trustRegion (tr : LiveTrustRegion kit) (ip : LiveInteriorPoint kit) (bound : Nat)
  | asymptotes (mma : LiveAsymptotes kit) (ip : LiveInteriorPoint kit)

namespace Backends

variable {kit : SolverKit R}

/-- Which backends are live. -/
def state : Backends kit → BackendState
  | .uninitialized => .uninitialized
  | .interiorPoint _ => .pureInteriorPoint
  | .trustRegion _ _ _ => .trustRegionActive
  | .asymptotes _ _ => .movingAsymptotesActive

/-- The live interior-point backend. -/
def interiorPoint? : Backends kit → Option (LiveInteriorPoint kit)
  | .uninitialized => none
  | .interiorPoint ip | .trustRegion _ ip _ | .asymptotes _ ip => some ip

/-- The live trust-region backend. -/
def trustRegion? : Backends kit → Option (LiveTrustRegion kit)
  | .trustRegion tr _ _ => some tr
  | _ => none

/-- The live moving-asymptotes backend. -/
def asymptotes? : Backends kit → Option (LiveAsymptotes kit)
  | .asymptotes mma _ => some mma
  | _ => none

/-- The model that the live backends are bound to. -/
def bound? : Backends kit → Option Nat
  | .trustRegion _ _ bound => some bound
  | _ => none

/-- The point of the outer backend with the multipliers of the interior-point backend.

The interior-point backend supplies both when it runs on its own. There is no point while
either of the two has none. -/
def point? : Backends kit → Option (OptimizedPoint R)
  | .uninitialized => none
  | .interiorPoint ip => kit.solution ip.backend
  | .trustRegion tr ip _ => do
    let x ← kit.trustRegionIterate tr.backend
    let multipliers ← kit.multipliers ip.backend
    return ⟨x, multipliers⟩
  | .asymptotes mma ip => do
    let x ← kit.asymptotesIterate mma.backend
    let multipliers ← kit.multipliers ip.backend
    return ⟨x, multipliers⟩

end Backends

/-- The coordinator with everything it shares with its callers. -/
structure Session (kit : SolverKit R) where
  workshop : Workshop kit
  options : OptionStore
  backends : Backends kit
  /-- The coordinator's own handle of a model. -/
  subproblem : Option Nat
  /-- The handles that callers keep, by name. -/
  held : NameMap Nat

namespace Session

variable {kit : SolverKit R}

/-- The coordinator of a problem before its first run. -/
def new (kit : SolverKit R) (problem : Problem R) (options : OptionStore) : Session kit :=
  ⟨.new kit problem, options, .uninitialized, none, .empty⟩

/-- Which backends are live. -/
def state (s : Session kit) : BackendState :=
  s.backends.state

/-- The point of the last run. -/
def point? (s : Session kit) : Option (OptimizedPoint R) :=
  s.backends.point?

/-- The coordinator's own model. -/
def model? (s : Session kit) : Option (QuadraticModel R kit.Curvature) :=
  s.subproblem.bind s.workshop.models.get?

/-- Enter a log record in the journal. -/
def log (s : Session kit) (record : LogRecord) : Session kit :=
  { s with workshop := s.workshop.log record }

/-- Enter an event in the journal. -/
def happen (s : Session kit) (event : Event) : Session kit :=
  { s with workshop := s.workshop.happen event }

/-- Whether somebody holds a model. -/
def isHeld (s : Session kit) (handle : Nat) : Bool :=
  s.subproblem == some handle || s.backends.bound? == some handle ||
    s.held.entries.any fun entry => entry.2 == handle

/-- Release a model that a holder has let go of, unless somebody else holds it. -/
def letGo (s : Session kit) : Option Nat → Session kit
  | none => s
  | some handle =>
    if s.isHeld handle then s
    else
      let s := s.happen (.dropped .curvature handle)
      { s with workshop := { s.workshop with models := s.workshop.models.remove handle } }

/-- Drop an interior-point backend. -/
def dropInteriorPoint (s : Session kit) (ip : LiveInteriorPoint kit) : Session kit :=
  s.happen (.dropped (.interiorPoint ip.target.kind) ip.serial)

/-- Drop a trust-region backend. -/
def dropTrustRegion (s : Session kit) (tr : LiveTrustRegion kit) : Session kit :=
  s.happen (.dropped .trustRegion tr.serial)

/-- Drop a moving-asymptotes backend. -/
def dropAsymptotes (s : Session kit) (mma : LiveAsymptotes kit) : Session kit :=
  s.happen (.dropped .asymptotes mma.serial)

/-- Put away the surrogate of a moving-asymptotes backend. -/
def putAwaySurrogate (s : Session kit) (mma : LiveAsymptotes kit) : Session kit :=
  { s with workshop :=
      { s.workshop with surrogates := s.workshop.surrogates.remove mma.serial } }

/-- The state in which the backends have been taken away from their holder. -/
def withoutBackends (s : Session kit) : Session kit :=
  { s with backends := .uninitialized }

/-- Discard the live backends, the outer one first, and log each step. -/
def discardBackends (s : Session kit) : Session kit :=
  let rest := s.withoutBackends
  match s.backends with
  | .uninitialized => rest
  | .interiorPoint ip => (rest.log .discardingInteriorPoint).dropInteriorPoint ip
  | .trustRegion tr ip bound =>
    let rest := (rest.log .discardingTrustRegion).dropTrustRegion tr
    let rest := (rest.log .discardingInteriorPoint).dropInteriorPoint ip
    rest.letGo (some bound)
  | .asymptotes mma ip =>
    let rest := (rest.log .discardingAsymptotes).dropAsymptotes mma
    let rest := (rest.log .discardingInteriorPoint).dropInteriorPoint ip
    rest.putAwaySurrogate mma

/-- Drop the live backends without logging, the outer one first. -/
def dropBackends (s : Session kit) : Session kit :=
  let rest := s.withoutBackends
  match s.backends with
  | .uninitialized => rest
  | .interiorPoint ip => rest.dropInteriorPoint ip
  | .trustRegion tr ip bound => ((rest.dropTrustRegion tr).dropInteriorPoint ip).letGo (some bound)
  | .asymptotes mma ip => ((rest.dropAsymptotes mma).dropInteriorPoint ip).putAwaySurrogate mma

/-- Drop the coordinator: the live backends first, then its own handle of a model. -/
def dispose (s : Session kit) : Session kit :=
  let s := s.dropBackends
  let own := s.subproblem
  { s with subproblem := none }.letGo own

/-- Replace the coordinator's own handle, letting go of the one before. -/
def replaceHandle (s : Session kit) (handle : Option Nat) : Session kit :=
  let own := s.subproblem
  { s with subproblem := handle }.letGo own

/-- Whether a model is one of the problem that is being optimized. -/
def isForeign (s : Session kit) (handle : Nat) : Bool :=
  match s.workshop.models.get? handle with
  | none => false
  | some model => model.source.origin != .optimized

/-- Put a model in place of the coordinator's own, with a warning if it is of another problem. -/
def setSubproblem (s : Session kit) (handle : Nat) : Session kit :=
  let s := if s.isForeign handle then s.log .foreignSubproblem else s
  (s.log .replacingSubproblem).replaceHandle (some handle)

/-- Give up the coordinator's own model; the next trust-region run builds a fresh one. -/
def clearSubproblem (s : Session kit) : Session kit :=
  (s.log .clearingSubproblem).replaceHandle none

/-- Keep a handle of the coordinator's model under a name, in place of the one of that name;
the answer says whether there was a model. -/
def hold (s : Session kit) (name : String) : Bool × Session kit :=
  match s.subproblem with
  | none => (false, s)
  | some handle =>
    let before := s.held.find? name
    (true, { s with held := s.held.insert name handle }.letGo before)

/-- Let go of the handle kept under a name; the answer says whether there was one. -/
def release (s : Session kit) (name : String) : Bool × Session kit :=
  match s.held.find? name with
  | none => (false, s)
  | some handle => (true, { s with held := s.held.erase name }.letGo (some handle))

/-- Let go of all the handles that callers keep, in name order. -/
def releaseAll (s : Session kit) : Session kit :=
  s.held.entries.foldl (fun s entry => (s.release entry.1).2) s

/-- Whether a kept handle and the coordinator's own are of the same model, if both exist. -/
def isSame (s : Session kit) (name : String) : Option Bool := do
  let handle ← s.held.find? name
  let own ← s.subproblem
  return handle == own

/-- Put the model of a kept handle in place of the coordinator's own. -/
def setHeldSubproblem (s : Session kit) (name : String) : Session kit :=
  match s.held.find? name with
  | none => s
  | some handle => s.setSubproblem handle

/-- The journal so far, and the state with an empty one. -/
def takeJournal (s : Session kit) : Journal × Session kit :=
  (s.workshop.journal, { s with workshop := { s.workshop with journal := [] } })

variable [Scalar R]

/-- Build a model of the problem, or of another one, and put it in place of the own one. -/
def injectSubproblem (s : Session kit) (kind : QuasiNewtonKind) (size : Nat)
    (problem : Option (Problem R)) : Session kit :=
  let source : ProblemObject R :=
    match problem with
    | none => s.workshop.optimizedProblem
    | some problem => ⟨.suppliedWith s.workshop.nextSerial, problem⟩
  let (handle, workshop) := s.workshop.buildModel source kind size
  { s with workshop }.setSubproblem handle

end Session

end StrategyCoordinator
