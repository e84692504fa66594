import StrategyCoordinator.Coordinator.Session

/-!
# Running the selected strategy

A call first resolves the configuration into a request, then brings the live backends in line
with the request, and then runs the outer backend. Resolving is where a configuration error
is found, and nothing but a missing model is built there, after the last check. Backends that
fit the request are kept: those of the same strategy, and for the trust-region strategy only
if they are bound to the model that the request names.
-/

namespace StrategyCoordinator

/-- What a resolved configuration asks for. -/
inductive Request
  | interiorPoint (checkpoint : Option String)
  | trustRegion (subproblem : Nat)
  | asymptotes
deriving DecidableEq

namespace Request

/-- The strategy of a request. -/
def algorithm : Request → Algorithm
  | .interiorPoint _ => .interiorPoint
  | .trustRegion _ => .trustRegion
  | .asymptotes => .movingAsymptotes

/-- The checkpoint file of a request, which only the interior-point strategy has. -/
def checkpoint : Request → Option String
  | .interiorPoint checkpoint => checkpoint
  | _ => none

end Request

variable {R : Type} {kit : SolverKit R}

/-- Whether the live backends serve a request as they are. -/
def Backends.serves (backends : Backends kit) : Request → Bool
  | .interiorPoint _ => backends.state == .pureInteriorPoint
  | .trustRegion handle => backends.bound? == some handle
  | .asymptotes => backends.state == .movingAsymptotesActive

namespace Session

/-- Replace whatever is live by a fresh interior-point backend on the problem. -/
def installInteriorPoint (s : Session kit) : Session kit :=
  let s := s.discardBackends
  let (ip, workshop) := s.workshop.buildInteriorPoint s.options .problem
  { s with workshop, backends := .interiorPoint ip }

/-- Replace whatever is live by fresh trust-region backends on a model. -/
def installTrustRegion (s : Session kit) (handle : Nat) : Session kit :=
  let s := if s.state = .trustRegionActive then s.log .boundSubproblemReplaced else s
  let s := s.discardBackends
  let (ip, workshop) := s.workshop.buildInteriorPoint s.options (.subproblem handle)
  let (tr, workshop) := workshop.buildTrustRegion s.options handle
  { s with workshop, backends := .trustRegion tr ip handle }

/-- Replace whatever is live by a fresh moving-asymptotes backend and its inner solver. -/
def installAsymptotes (s : Session kit) : Session kit :=
  let s := s.discardBackends
  let (mma, workshop) := s.workshop.buildAsymptotes s.options
  let (ip, workshop) := workshop.buildInteriorPoint s.options (.surrogate mma.serial)
  { s with workshop, backends := .asymptotes mma ip }

/-- Bring the live backends in line with a request. -/
def transition (s : Session kit) (request : Request) : Session kit :=
  if s.backends.serves request then s
  else
    match request with
    | .interiorPoint _ => s.installInteriorPoint
    | .trustRegion handle => s.installTrustRegion handle
    | .asymptotes => s.installAsymptotes

variable [Scalar R]

/-- The coordinator's model for the trust-region strategy, built from the options if missing. -/
def ensureSubproblem (s : Session kit) : Except OptimizerError (Nat × Session kit) :=
  match s.subproblem with
  | some handle => .ok (handle, s)
  | none => do
    let (handle, workshop) ← s.workshop.buildConfiguredSubproblem s.options
    return (handle, { s with workshop, subproblem := some handle })

/-- Read and check everything that the selected strategy needs. -/
def resolve (s : Session kit) : Except OptimizerError (Request × Session kit) := do
  match ← s.options.readAlgorithm with
  | .interiorPoint =>
    let checkpoint ← s.options.readCheckpoint
    return (.interiorPoint checkpoint, s)
  | .trustRegion =>
    let (handle, s) ← s.ensureSubproblem
    return (.trustRegion handle, s)
  | .movingAsymptotes => return (.asymptotes, s)

/-- Run the outer backend; a failure leaves all backends in place. -/
def runBackends (s : Session kit) (condition : kit.Condition) (checkpoint : Option String) :
    Session kit × Except BackendFailure Unit :=
  match s.backends with
  | .uninitialized => (s, .ok ())
  | .interiorPoint ip =>
    let (workshop, ip, outcome) := Workshop.solve condition checkpoint s.workshop ip
    ({ s with workshop, backends := .interiorPoint ip }, outcome)
  | .trustRegion tr ip bound =>
    let result := Workshop.performTrustRegion condition tr.subproblem tr.backend
      (s.workshop.happen (.ran .trustRegion tr.serial)) ip
      (kit.runTrustRegion condition tr.backend)
    ({ s with
        workshop := result.workshop
        backends := .trustRegion { tr with backend := result.backend } result.inner bound },
      result.outcome)
  | .asymptotes mma ip =>
    let result := Workshop.performAsymptotes condition mma.serial
      (s.workshop.happen (.ran .asymptotes mma.serial)) ip
      (kit.runAsymptotes condition mma.backend)
    ({ s with
        workshop := result.workshop
        backends := .asymptotes { mma with backend := result.backend } result.inner },
      result.outcome)

/-- Run the strategy that the options select. -/
def optimize (s : Session kit) (condition : kit.Condition) :
    Session kit × Except OptimizerError Unit :=
  match s.resolve with
  | .error e => (s.log (.refused e), .error e)
  | .ok (request, s) =>
    let s := s.log (.started request.algorithm s.state)
    let (s, outcome) := (s.transition request).runBackends condition request.checkpoint
    match outcome with
    | .error failure => (s, .error (.backend failure))
    | .ok () => (s.log (.finished s.state), .ok ())

end Session

end StrategyCoordinator
