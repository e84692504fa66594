import StrategyCoordinator.Binary.Format
import StrategyCoordinator.Text.Blank
import StrategyCoordinator.Text.LowerCase

/-!
# Strategies and curvature approximations

A strategy says which method drives the optimization: the interior-point method on the
problem itself, a trust-region method on a quadratic model, or the method of moving
asymptotes on a convex surrogate. The two outer methods use the interior-point method inside.

Strategies and curvature approximations are written as short lower-case words. Reading such a
word ignores surrounding blanks and the case of letters.
-/

namespace StrategyCoordinator

/-- The lower-case text without surrounding blanks, as words are compared. -/
def foldedWord (text : String) : List Char :=
  lowerCase (trimBlanks text.toList)

/-- The method that drives the optimization. -/
inductive Algorithm
  | interiorPoint
  | trustRegion
  | movingAsymptotes
deriving DecidableEq

namespace Algorithm

/-- All strategies, in the order of their option values. -/
def all : List Algorithm :=
  [.interiorPoint, .trustRegion, .movingAsymptotes]

/-- The word that selects a strategy. -/
def text : Algorithm → String
  | .interiorPoint => "ip"
  | .trustRegion => "tr"
  | .movingAsymptotes => "mma"

/-- The strategy that a text selects, if any. -/
def parse? (text : String) : Option Algorithm :=
  all.find? fun algorithm => algorithm.text.toList == foldedWord text

/-- The position of a strategy among all strategies. -/
def index : Algorithm → Nat
  | .interiorPoint => 0
  | .trustRegion => 1
  | .movingAsymptotes => 2

/-- A strategy in bytes: its position in four bytes. -/
def binary : Format Algorithm where
  bytes algorithm := Format.wordBytes 4 algorithm.index
  read := (Format.word 4).readWith fun n => all[n]?
  fits _ := True

end Algorithm

/-- The approximation of the curvature in a trust-region model. -/
inductive QuasiNewtonKind
  | bfgs
  | sr1
deriving DecidableEq

namespace QuasiNewtonKind

/-- All approximations, in the order of their option values. -/
def all : List QuasiNewtonKind :=
  [.bfgs, .sr1]

/-- The word that selects an approximation. -/
def text : QuasiNewtonKind → String
  | .bfgs => "bfgs"
  | .sr1 => "sr1"

/-- The approximation that a text selects, if any. -/
def parse? (text : String) : Option QuasiNewtonKind :=
  all.find? fun kind => kind.text.toList == foldedWord text

/-- The position of an approximation among all approximations. -/
def index : QuasiNewtonKind → Nat
  | .bfgs => 0
  | .sr1 => 1

/-- An approximation in bytes: its position in four bytes. -/
def binary : Format QuasiNewtonKind where
  bytes kind := Format.wordBytes 4 kind.index
  read := (Format.word 4).readWith fun n => all[n]?
  fits _ := True

end QuasiNewtonKind

/-- Which backends are live. -/
inductive BackendState
  | uninitialized
  | pureInteriorPoint
  | trustRegionActive
  | movingAsymptotesActive
deriving DecidableEq

namespace BackendState

/-- The name of a state. -/
def text : BackendState → String
  | .uninitialized => "uninitialized"
  | .pureInteriorPoint => "pure interior-point"
  | .trustRegionActive => "trust-region active"
  | .movingAsymptotesActive => "MMA active"

/-- The strategy whose backends are live, if any. -/
def algorithm? : BackendState → Option Algorithm
  | .uninitialized => none
  | .pureInteriorPoint => some .interiorPoint
  | .trustRegionActive => some .trustRegion
  | .movingAsymptotesActive => some .movingAsymptotes

end BackendState

end StrategyCoordinator
