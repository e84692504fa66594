import StrategyCoordinator.Binary.Options
import StrategyCoordinator.Numeric.Vector

/-!
# Optimized points

The result of a run is a primal point together with the multipliers of the constraints and of
the lower and upper variable bounds. In bytes a vector is a version byte, its length, and its
elements as a list, so its length is there twice; the two must agree.
-/

namespace StrategyCoordinator

/-- The multipliers of an interior-point solve. -/
structure Multipliers (R : Type) where
  /-- The multipliers of the constraints. -/
  z : Vec R
  /-- The multipliers of the lower bounds. -/
  zl : Vec R
  /-- The multipliers of the upper bounds. -/
  zu : Vec R
deriving DecidableEq

/-- The multipliers that are all zero, for the given numbers of variables and constraints. -/
def Multipliers.zeros {R : Type} [Zero R] (variableCount constraintCount : Nat) :
    Multipliers R :=
  ⟨Vec.zeros constraintCount, Vec.zeros variableCount, Vec.zeros variableCount⟩

/-- The result of a run. -/
structure OptimizedPoint (R : Type) where
  x : Vec R
  multipliers : Multipliers R
deriving DecidableEq

/-- Equality of vectors, with elements compared as numbers. -/
def Vec.numEq (a b : Vec Binary64) : Bool :=
  a.length == b.length && (a.zip b).all fun pair => pair.1.numEq pair.2

namespace OptimizedPoint

/-- Equality of points, with elements compared as numbers. -/
def numEq (a b : OptimizedPoint Binary64) : Bool :=
  Vec.numEq a.x b.x && Vec.numEq a.multipliers.z b.multipliers.z &&
    Vec.numEq a.multipliers.zl b.multipliers.zl && Vec.numEq a.multipliers.zu b.multipliers.zu

end OptimizedPoint

/-- The version of the vector format. -/
def Vec.formatVersion : Nat :=
  1

/-- A vector in bytes: the version, the length, and the elements as a list. -/
def Vec.binary : Format (Vec Binary64) where
  bytes v :=
    Format.wordBytes 1 Vec.formatVersion ++ Format.wordBytes 8 v.length ++
      Binary64.binary.list.bytes v
  read bytes := do
    let (version, rest) ← Format.readWord 1 bytes
    guard (version = Vec.formatVersion)
    let (length, rest) ← Format.readWord 8 rest
    let (v, rest) ← Binary64.binary.list.read rest
    guard (v.length = length)
    return (v, rest)
  fits v := v.length < Format.wordCount 8

/-- A point in bytes: the primal point and the three vectors of multipliers. -/
def OptimizedPoint.binary : Format (OptimizedPoint Binary64) :=
  (Vec.binary.pair (Vec.binary.pair (Vec.binary.pair Vec.binary))).via
    (fun (x, z, zl, zu) => ⟨x, z, zl, zu⟩)
    (fun point => (point.x, point.multipliers.z, point.multipliers.zl, point.multipliers.zu))

end StrategyCoordinator
