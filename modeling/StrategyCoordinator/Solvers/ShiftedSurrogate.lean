import StrategyCoordinator.Coordinator.Solvers

/-!
# A moving-asymptotes step by a shifted surrogate

The elementary moving-asymptotes backend has one surrogate, which it never changes. A run has
the surrogate solved once, and the iterate is the solution shifted back by a constant.
-/

namespace StrategyCoordinator

/-- A moving-asymptotes backend with a fixed surrogate. -/
structure ShiftedSurrogate where
  shift : Binary64
  iterate : Option (Vec Binary64)

namespace ShiftedSurrogate

/-- The option that holds the shift. -/
def shiftOption : String :=
  "mma_shift"

/-- A fresh backend, with the shift that the options hold. -/
def new (options : OptionStore) : ShiftedSurrogate :=
  ⟨(options.getFloat shiftOption).toOption.getD (Binary64.ofInt 100), none⟩

/-- The run of the backend. -/
def run (fails : Bool) (mma : ShiftedSurrogate) : AsymptotesRun Binary64 ShiftedSurrogate :=
  if fails then .finish mma (.error (.message "mma backend diverged"))
  else
    .solve none fun outcome point =>
      match outcome with
      | .error failure => .finish mma (.error failure)
      | .ok () =>
        let iterate := point.map fun point => point.x.map (· - mma.shift)
        .finish { mma with iterate } (.ok ())

end ShiftedSurrogate

end StrategyCoordinator
