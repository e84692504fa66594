import StrategyCoordinator.Coordinator.Optimize
import StrategyCoordinator.Model.Change

/-!
# Operations on the coordinator

Everything that a caller can do to the coordinator is one of the operations here: change the
options or the model, put another model in its place or give it up, keep and let go of handles,
and run the selected strategy. A history of a coordinator is a list of operations.
-/

namespace StrategyCoordinator

variable {R : Type}

/-- What a caller can do to the coordinator. -/
inductive Operation (kit : SolverKit R)
  /-- Put another option store in place of the present one. -/
  | setOptions (options : OptionStore)
  /-- Change the coordinator's model through its own handle. -/
  | changeModel (change : ModelChange R)
  /-- Change the model of a kept handle. -/
  | changeHeld (name : String) (change : ModelChange R)
  /-- Build a model, of the given problem if there is one, and put it in place of the own. -/
  | inject (kind : QuasiNewtonKind) (size : Nat) (problem : Option (Problem R))
  /-- Put the model of a kept handle in place of the own. -/
  | injectHeld (name : String)
  /-- Give up the coordinator's own model. -/
  | clear
  /-- Keep a handle of the coordinator's model under a name. -/
  | hold (name : String)
  /-- Let go of the handle kept under a name. -/
  | release (name : String)
  /-- Run the selected strategy. -/
  | optimize (condition : kit.Condition)

/-- What an operation answers. -/
inductive OperationAnswer
  | done
  | found (yes : Bool)
  | changed (result : Option (Evaluation Bool))
  | optimized (result : Except OptimizerError Unit)

namespace Session

variable {kit : SolverKit R}

/-- Change a model through a handle; without a handle nothing happens. -/
def changeThrough (s : Session kit) (handle : Option Nat) (change : ModelChange R) :
    Option (Evaluation Bool) × Session kit :=
  match handle with
  | none => (none, s)
  | some handle =>
    match s.workshop.models.get? handle with
    | none => (none, s)
    | some model =>
      let (result, changed) := change.apply model
      let models := s.workshop.models.modify handle fun _ => changed
      (some result, { s with workshop := { s.workshop with models } })

variable [Scalar R]

/-- Perform an operation. -/
def perform (s : Session kit) : Operation kit → Session kit × OperationAnswer
  | .setOptions options => ({ s with options }, .done)
  | .changeModel change =>
    let (result, s) := s.changeThrough s.subproblem change
    (s, .changed result)
  | .changeHeld name change =>
    let (result, s) := s.changeThrough (s.held.find? name) change
    (s, .changed result)
  | .inject kind size problem => (s.injectSubproblem kind size problem, .done)
  | .injectHeld name => (s.setHeldSubproblem name, .done)
  | .clear => (s.clearSubproblem, .done)
  | .hold name =>
    let (yes, s) := s.hold name
    (s, .found yes)
  | .release name =>
    let (yes, s) := s.release name
    (s, .found yes)
  | .optimize condition =>
    let (s, result) := s.optimize condition
    (s, .optimized result)

/-- Perform operations one after another. -/
def performAll (s : Session kit) (operations : List (Operation kit)) : Session kit :=
  operations.foldl (fun s operation => (s.perform operation).1) s

end Session

end StrategyCoordinator
