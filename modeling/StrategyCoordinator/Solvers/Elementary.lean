import StrategyCoordinator.Solvers.ProjectedGradient
import StrategyCoordinator.Solvers.Recentering
import StrategyCoordinator.Solvers.ScaledIdentity
import StrategyCoordinator.Solvers.SeparableProblem
import StrategyCoordinator.Solvers.ShiftedSurrogate

/-!
# The elementary solver kit

The kit joins the elementary backends: projected gradient, recentering, shifted surrogate and
scaled identity. They are small enough to be followed by hand and still use everything that
the coordinator offers to a backend. The condition of a run says which sort of backend, if
any, is to fail.
-/

namespace StrategyCoordinator

/-- The sorts of backends. -/
inductive BackendSort
  | interiorPoint
  | trustRegion
  | asymptotes
deriving DecidableEq

/-- What the elementary solvers are made from. -/
structure ElementarySolvers where
  /-- The options of the backends, in the order of their registration. -/
  options : List Registration
  /-- The multiple of the identity that a fresh approximation starts with. -/
  scale : Binary64
  /-- The matrix that takes the place of the identity, if there is one. -/
  fixedCurvature : Option (List (Vec Binary64))
  /-- The surrogate of every moving-asymptotes backend. -/
  surrogate : Problem Binary64

namespace ElementarySolvers

/-- The surrogate that is used when none is given. -/
def standardSurrogate : Problem Binary64 :=
  let side : Interval Binary64 := ⟨Binary64.ofInt 2, Binary64.ofInt 4⟩
  Problem.ofBounds [side, side] 0

/-- The solvers for which nothing was chosen. -/
def standard : ElementarySolvers :=
  ⟨[], Binary64.ofInt 1, none, standardSurrogate⟩

/-- Register the options of the backends, up to the first error. -/
def registerOptions (solvers : ElementarySolvers) : OptionRegistrar :=
  fun store => store.registerAll solvers.options

/-- A fresh curvature approximation. -/
def newCurvature (solvers : ElementarySolvers) (kind : QuasiNewtonKind) (size : Nat) :
    ScaledIdentity :=
  ⟨kind, size, solvers.scale, solvers.fixedCurvature⟩

/-- The solver kit. -/
def kit (solvers : ElementarySolvers) : SolverKit Binary64 where
  Curvature := ScaledIdentity
  InteriorPoint := ProjectedGradient
  TrustRegion := Recentering
  Asymptotes := ShiftedSurrogate
  Condition := Option BackendSort
  quasiNewton := inferInstance
  registerOptions := solvers.registerOptions
  newCurvature _ kind _ size := solvers.newCurvature kind size
  newInteriorPoint serial _ options := .new serial options
  newTrustRegion _ options := .new options
  newAsymptotes _ _ options := (.new options, solvers.surrogate)
  solveTarget failing _ target backend :=
    backend.solve (failing == some .interiorPoint) target
  solution := ProjectedGradient.solution
  runTrustRegion failing backend := backend.run (failing == some .trustRegion)
  trustRegionIterate := Recentering.iterate
  runAsymptotes failing backend := backend.run (failing == some .asymptotes)
  asymptotesIterate := ShiftedSurrogate.iterate

end ElementarySolvers

end StrategyCoordinator
