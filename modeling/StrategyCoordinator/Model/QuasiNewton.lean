import StrategyCoordinator.Numeric.Vector
import StrategyCoordinator.Strategy

/-!
# Curvature approximations

A trust-region model takes its curvature from an approximation that learns from pairs of a
step and the change of the gradient over it. How the approximation works is its own matter:
a model only multiplies by it, hands it pairs, and can tell its kind and size.
-/

namespace StrategyCoordinator

/-- A type whose values approximate the curvature of a function. -/
class QuasiNewton (R : outParam Type) (Q : Type) where
  /-- The kind of the approximation. -/
  kind : Q → QuasiNewtonKind
  /-- The number of pairs that the approximation keeps. -/
  subspaceSize : Q → Nat
  /-- Offer a pair of a step and a gradient change; the answer says whether it was used. -/
  update : Q → Vec R → Vec R → Bool × Q
  /-- The product of the approximation with a vector. -/
  multiply : Q → Vec R → Vec R

end StrategyCoordinator
