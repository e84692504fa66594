import StrategyCoordinator.Options.Store
import StrategyCoordinator.Problem.Basic
import StrategyCoordinator.Strategy

/-!
# The options that the coordinator reads

Four options belong to the coordinator: the strategy, the checkpoint file of the interior-point
method, and the kind and size of the curvature approximation. The default store registers
them first and the options of the backends after them.

Reading the configuration finds the first thing wrong with it, before any backend is built or
discarded. A backend may fail later, while it runs; that is not an error of the configuration.
-/

namespace StrategyCoordinator

/-- Why a backend's run failed. -/
inductive BackendFailure
  /-- An evaluation of the target reported an error. -/
  | evaluation (error : EvaluationError)
  /-- The backend gave up, with a message. -/
  | message (text : String)
  /-- The shapes of the vectors in an evaluation did not combine. -/
  | shapeMismatch
  /-- The target of the run had been released. -/
  | released
deriving DecidableEq

namespace BackendFailure

/-- The failure of a run in which an evaluation failed. -/
def ofEvaluation : EvaluationFailure → BackendFailure
  | .reported error => .evaluation error
  | .shapeMismatch => .shapeMismatch

/-- The text of a failure. -/
def text : BackendFailure → String
  | .evaluation error => error.message
  | .message text => text
  | .shapeMismatch => "The shapes of the operands do not combine."
  | .released => "The target has been released."

end BackendFailure

/-- Why an optimization was refused or failed. -/
inductive OptimizerError
  | unknownAlgorithm (text : String)
  | unknownQuasiNewtonKind (text : String)
  | invalidSubspaceSize (size : Int64)
  | option (error : OptionError)
  | backend (failure : BackendFailure)
deriving DecidableEq

namespace OptimizerError

/-- The message of an error. -/
def message : OptimizerError → String
  | .unknownAlgorithm text =>
    "Optimizer Error: Unrecognized algorithm option '" ++ text ++ "'."
  | .unknownQuasiNewtonKind text =>
    "Optimizer Error: Unrecognized quasi-Newton type '" ++ text ++ "'."
  | .invalidSubspaceSize size =>
    "Optimizer Error: Invalid quasi-Newton subspace size " ++ toString size.toInt ++ "."
  | .option error => error.message
  | .backend failure => failure.text

/-- Whether the error was found in the configuration, before any backend was touched. -/
def isConfigurationError : OptimizerError → Bool
  | .backend _ => false
  | _ => true

end OptimizerError

/-- The strategy that a text selects; the error keeps the text as it was given. -/
def Algorithm.read (text : String) : Except OptimizerError Algorithm :=
  match Algorithm.parse? text with
  | some algorithm => .ok algorithm
  | none => .error (.unknownAlgorithm text)

/-- A text is read as the strategy that it selects. -/
theorem Algorithm.read_eq_ok {text : String} {algorithm : Algorithm} :
    read text = .ok algorithm ↔ parse? text = some algorithm := by
  unfold read
  cases parse? text <;> simp

/-- A text that selects no strategy is refused with the error that keeps it. -/
theorem Algorithm.read_eq_error {text : String} {e : OptimizerError} :
    read text = .error e ↔ parse? text = none ∧ e = .unknownAlgorithm text := by
  unfold read
  cases parse? text <;> simp [eq_comm]

/-- The approximation that a text selects; the error keeps the text as it was given. -/
def QuasiNewtonKind.read (text : String) : Except OptimizerError QuasiNewtonKind :=
  match QuasiNewtonKind.parse? text with
  | some kind => .ok kind
  | none => .error (.unknownQuasiNewtonKind text)

/-- A text is read as the approximation that it selects. -/
theorem QuasiNewtonKind.read_eq_ok {text : String} {kind : QuasiNewtonKind} :
    read text = .ok kind ↔ parse? text = some kind := by
  unfold read
  cases parse? text <;> simp

/-- A text that selects no approximation is refused with the error that keeps it. -/
theorem QuasiNewtonKind.read_eq_error {text : String} {e : OptimizerError} :
    read text = .error e ↔ parse? text = none ∧ e = .unknownQuasiNewtonKind text := by
  unfold read
  cases parse? text <;> simp [eq_comm]

namespace OptionName

/-- The strategy to run. -/
def algorithm : String :=
  "algorithm"

/-- The checkpoint file handed to the interior-point backend when it runs on its own. -/
def checkpointFile : String :=
  "ip_checkpoint_file"

/-- The kind of the curvature approximation. -/
def quasiNewtonKind : String :=
  "qn_type"

/-- The number of pairs that the curvature approximation keeps. -/
def subspaceSize : String :=
  "qn_subspace_size"

end OptionName

/-- The options of the coordinator, in the order of their registration. -/
def coordinatorOptions : List Registration :=
  [.choice OptionName.algorithm Algorithm.trustRegion.text (Algorithm.all.map Algorithm.text)
      "The type of optimization algorithm",
    .str OptionName.checkpointFile none "Checkpoint file for the interior point method",
    .choice OptionName.quasiNewtonKind QuasiNewtonKind.bfgs.text
      (QuasiNewtonKind.all.map QuasiNewtonKind.text)
      "The type of quasi-Newton approximation used by the trust-region subproblem",
    .int OptionName.subspaceSize 10 0 1000
      "The number of correction pairs kept by the quasi-Newton approximation"]

/-- What registers the options of the backends: a store is turned into another one, and an
error may come with it. -/
abbrev OptionRegistrar :=
  OptionStore → OptionStore × Except OptionError Unit

namespace OptionStore

/-- Register the coordinator's options and then those of the backends. -/
def addDefaults (store : OptionStore) (backends : OptionRegistrar) :
    OptionStore × Except OptionError Unit :=
  match store.registerAll coordinatorOptions with
  | (store, .ok ()) => backends store
  | (store, .error e) => (store, .error e)

/-- The store that holds just the default options. -/
def defaults (backends : OptionRegistrar) : Except OptionError OptionStore :=
  match empty.addDefaults backends with
  | (store, .ok ()) => .ok store
  | (_, .error e) => .error e

/-- An error of the option store as an error of the optimization. -/
def liftError {α : Type} : Except OptionError α → Except OptimizerError α
  | .ok value => .ok value
  | .error e => .error (.option e)

/-- The strategy that the store selects. -/
def readAlgorithm (store : OptionStore) : Except OptimizerError Algorithm := do
  let text ← liftError (store.getChoice OptionName.algorithm)
  Algorithm.read text

/-- The checkpoint file, if one is given; it need not be registered. -/
def readCheckpoint (store : OptionStore) : Except OptimizerError (Option String) :=
  match store.getStr OptionName.checkpointFile with
  | .error (.unknownOption _) => .ok none
  | result => liftError result

/-- The kind and size of the curvature approximation. -/
def readQuasiNewton (store : OptionStore) : Except OptimizerError (QuasiNewtonKind × Nat) := do
  let text ← liftError (store.getChoice OptionName.quasiNewtonKind)
  let kind ← QuasiNewtonKind.read text
  let size ← liftError (store.getInt OptionName.subspaceSize)
  if size.toInt < 0 then throw (.invalidSubspaceSize size)
  else return (kind, size.toInt.toNat)

end OptionStore

end StrategyCoordinator
