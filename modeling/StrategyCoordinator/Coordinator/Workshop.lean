import StrategyCoordinator.Coordinator.Journal
import StrategyCoordinator.Coordinator.Shelf

/-!
# Building and running backends

The workshop is the part of the coordinator's state that outlives single backends: the
problem, the shared models and surrogates, the next serial number and the journal. Whatever
the kit makes is made here, takes the next serial number, and is entered in the journal.

A model is known by the serial number of its curvature approximation, a surrogate by that of
the backend it came from. An interior-point backend keeps its target by such a number, and
the target is looked up anew at every solve.
-/

namespace StrategyCoordinator

/-- What an interior-point backend solves: the problem itself, the model with the given number,
or the surrogate of the backend with the given number. -/
inductive Target
  | problem
  | subproblem (handle : Nat)
  | surrogate (owner : Nat)
deriving DecidableEq

namespace Target

/-- The kind of a target. -/
def kind : Target → TargetKind
  | .problem => .problem
  | .subproblem _ => .subproblem
  | .surrogate _ => .surrogate

end Target

variable {R : Type}

/-- An interior-point backend with what it was built on. -/
structure LiveInteriorPoint (kit : SolverKit R) where
  serial : Nat
  target : Target
  backend : kit.InteriorPoint

/-- A trust-region backend with the model it was built on. -/
structure LiveTrustRegion (kit : SolverKit R) where
  serial : Nat
  subproblem : Nat
  backend : kit.TrustRegion

/-- A moving-asymptotes backend with the problem it was built on. -/
structure LiveAsymptotes (kit : SolverKit R) where
  serial : Nat
  source : ProblemOrigin
  backend : kit.Asymptotes

/-- The problem, the shared objects, the next serial number and the journal. -/
structure Workshop (kit : SolverKit R) where
  problem : Problem R
  models : Shelf (QuadraticModel R kit.Curvature)
  surrogates : Shelf (Problem R)
  nextSerial : Nat
  journal : Journal

namespace Workshop

variable {kit : SolverKit R}

/-- The workshop before anything was built. -/
def new (kit : SolverKit R) (problem : Problem R) : Workshop kit :=
  ⟨problem, .empty, .empty, 0, []⟩

/-- Enter an event in the journal. -/
def happen (w : Workshop kit) (event : Event) : Workshop kit :=
  { w with journal := w.journal ++ [.event event] }

/-- Enter a log record in the journal. -/
def log (w : Workshop kit) (record : LogRecord) : Workshop kit :=
  { w with journal := w.journal ++ [.log record] }

/-- Count an object that was built with the next serial number. -/
def count (w : Workshop kit) (role : Role) : Workshop kit :=
  { w.happen (.built role w.nextSerial) with nextSerial := w.nextSerial + 1 }

/-- The problem of the workshop, as the object that is being optimized. -/
def optimizedProblem (w : Workshop kit) : ProblemObject R :=
  ⟨.optimized, w.problem⟩

section Models

variable [Scalar R]

/-- Build a model of a problem, with a fresh approximation; the answer is its number. -/
def buildModel (w : Workshop kit) (source : ProblemObject R) (kind : QuasiNewtonKind)
    (size : Nat) : Nat × Workshop kit :=
  let serial := w.nextSerial
  let model := .new source (kit.newCurvature serial kind source.problem size)
  (serial, { w.count .curvature with models := w.models.put serial model })

/-- Build a model of the problem that is being optimized, and log that. -/
def buildSubproblem (w : Workshop kit) (kind : QuasiNewtonKind) (size : Nat) :
    Nat × Workshop kit :=
  (w.log (.buildingSubproblem kind size)).buildModel w.optimizedProblem kind size

/-- Build the model that the options describe, once nothing is wrong with them. -/
def buildConfiguredSubproblem (w : Workshop kit) (options : OptionStore) :
    Except OptimizerError (Nat × Workshop kit) := do
  let (kind, size) ← options.readQuasiNewton
  return w.buildSubproblem kind size

end Models

/-- Build an interior-point backend on a target. -/
def buildInteriorPoint (w : Workshop kit) (options : OptionStore) (target : Target) :
    LiveInteriorPoint kit × Workshop kit :=
  let serial := w.nextSerial
  (⟨serial, target, kit.newInteriorPoint serial target.kind options⟩,
    (w.log (.buildingInteriorPoint target.kind)).count (.interiorPoint target.kind))

/-- Build a trust-region backend on a model. -/
def buildTrustRegion (w : Workshop kit) (options : OptionStore) (subproblem : Nat) :
    LiveTrustRegion kit × Workshop kit :=
  let serial := w.nextSerial
  (⟨serial, subproblem, kit.newTrustRegion serial options⟩,
    (w.log .buildingTrustRegion).count .trustRegion)

/-- Build a moving-asymptotes backend on the problem, with its surrogate. -/
def buildAsymptotes (w : Workshop kit) (options : OptionStore) :
    LiveAsymptotes kit × Workshop kit :=
  let serial := w.nextSerial
  let (backend, surrogate) := kit.newAsymptotes serial w.problem options
  (⟨serial, w.optimizedProblem.origin, backend⟩,
    { (w.log .buildingAsymptotes).count .asymptotes with
      surrogates := w.surrogates.put serial surrogate })

/-- Enter in the journal that a checkpoint file was handed to a run, if one was. -/
def handCheckpoint (w : Workshop kit) : Option String → Workshop kit
  | none => w
  | some path => w.happen (.checkpoint path)

/-- What is left after the run of an outer backend of type `B`. -/
structure RunResult (kit : SolverKit R) (B : Type) where
  workshop : Workshop kit
  inner : LiveInteriorPoint kit
  backend : B
  outcome : Except BackendFailure Unit

variable [Scalar R]

/-- The problem that a target stands for, as it is now. -/
def lend (w : Workshop kit) : Target → Option (Problem R)
  | .problem => some w.problem
  | .subproblem handle => (w.models.get? handle).map QuadraticModel.toProblem
  | .surrogate owner => w.surrogates.get? owner

/-- Have an interior-point backend solve its target. -/
def solve (condition : kit.Condition) (checkpoint : Option String) (w : Workshop kit)
    (ip : LiveInteriorPoint kit) :
    Workshop kit × LiveInteriorPoint kit × Except BackendFailure Unit :=
  let w := (w.happen (.ran (.interiorPoint ip.target.kind) ip.serial)).handCheckpoint checkpoint
  match w.lend ip.target with
  | none => (w, ip, .error .released)
  | some target =>
    let (backend, outcome) := kit.solveTarget condition checkpoint target ip.backend
    (w, { ip with backend }, outcome)

/-- Carry out the run of a trust-region backend on a model.

If the model is gone, the run ends there and the backend stays as it was before the run. -/
def performTrustRegion (condition : kit.Condition) (handle : Nat) (before : kit.TrustRegion)
    (w : Workshop kit) (ip : LiveInteriorPoint kit) :
    TrustRegionRun R kit.Curvature kit.TrustRegion → RunResult kit kit.TrustRegion
  | .finish backend outcome => ⟨w, ip, backend, outcome⟩
  | .inspect next =>
    match w.models.get? handle with
    | none => ⟨w, ip, before, .error .released⟩
    | some model => performTrustRegion condition handle before w ip (next model)
  | .setCenter x next =>
    match w.models.get? handle with
    | none => ⟨w, ip, before, .error .released⟩
    | some model =>
      match model.setCenter x with
      | .error failure => performTrustRegion condition handle before w ip (next (.error failure))
      | .ok moved =>
        performTrustRegion condition handle before
          { w with models := w.models.modify handle fun _ => moved } ip (next (.ok ()))
  | .setRadius radius next =>
    performTrustRegion condition handle before
      { w with models := w.models.modify handle (·.setRadius radius) } ip next
  | .updateCurvature s y next =>
    match w.models.get? handle with
    | none => ⟨w, ip, before, .error .released⟩
    | some model =>
      let (used, updated) := model.updateCurvature s y
      performTrustRegion condition handle before
        { w with models := w.models.modify handle fun _ => updated } ip (next used)
  | .solve checkpoint next =>
    let (w, ip, outcome) := solve condition checkpoint w ip
    performTrustRegion condition handle before w ip (next outcome (kit.solution ip.backend))

/-- Carry out the run of a moving-asymptotes backend. -/
def performAsymptotes (condition : kit.Condition) (owner : Nat) (w : Workshop kit)
    (ip : LiveInteriorPoint kit) :
    AsymptotesRun R kit.Asymptotes → RunResult kit kit.Asymptotes
  | .finish backend outcome => ⟨w, ip, backend, outcome⟩
  | .setSurrogate surrogate next =>
    performAsymptotes condition owner
      { w with surrogates := w.surrogates.modify owner fun _ => surrogate } ip next
  | .solve checkpoint next =>
    let (w, ip, outcome) := solve condition checkpoint w ip
    performAsymptotes condition owner w ip (next outcome (kit.solution ip.backend))

end Workshop

end StrategyCoordinator
