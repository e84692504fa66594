import StrategyCoordinator.Model.QuasiNewton

/-!
# Scaled identity matrices as curvature

The simplest curvature approximation is a multiple of the identity matrix. A pair of a step
`s` and a gradient change `y` with a clearly positive product `s · y` sets the multiple to
`(y · y) / (s · y)`; any other pair is skipped. A fixed matrix can take the place of the
identity, and then no pair changes it.
-/

namespace StrategyCoordinator

/-- A multiple of the identity matrix, or a fixed matrix. -/
structure ScaledIdentity where
  kind : QuasiNewtonKind
  size : Nat
  scale : Binary64
  fixed : Option (List (Vec Binary64))

namespace ScaledIdentity

/-- The product with a step must be larger than this for a pair to be used. -/
def threshold : Binary64 :=
  Binary64.ofDecimal 1 12

/-- Offer a pair of a step and a gradient change. -/
def update (b : ScaledIdentity) (s y : Vec Binary64) : Bool × ScaledIdentity :=
  let product := Vec.accumulateProducts 0 s y
  if b.fixed.isSome || b.size == 0 || !threshold.numLt product then (false, b)
  else (true, { b with scale := Vec.accumulateProducts 0 y y / product })

/-- The product with a vector. -/
def multiply (b : ScaledIdentity) (v : Vec Binary64) : Vec Binary64 :=
  match b.fixed with
  | some rows => rows.map fun row => Vec.accumulateProducts 0 row v
  | none => v.map (· * b.scale)

instance : QuasiNewton Binary64 ScaledIdentity where
  kind := ScaledIdentity.kind
  subspaceSize := ScaledIdentity.size
  update := ScaledIdentity.update
  multiply := ScaledIdentity.multiply

end ScaledIdentity

end StrategyCoordinator
