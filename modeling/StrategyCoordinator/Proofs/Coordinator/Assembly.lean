import StrategyCoordinator.Coordinator.Operation

/-!
# What live backends were built on

The backends themselves are opaque. What the coordinator can be held to is which objects it
built, for which parts, and on what: the assembly of the live backends. It determines the
state, the model that the backends are bound to and the roster of what is live.

An assembly is wired if the backends in it fit each other: alone, the interior-point backend
targets the problem; otherwise the outer backend and the interior-point backend meet in one
model or in the surrogate that came with the outer backend.
-/

namespace StrategyCoordinator

/-- What the live backends were built on, by serial numbers. -/
inductive Assembly
  | uninitialized
  | interiorPoint (ip : Nat) (target : Target)
  | trustRegion (tr subproblem ip : Nat) (target : Target) (bound : Nat)
  | asymptotes (mma : Nat) (source : ProblemOrigin) (ip : Nat) (target : Target)

namespace Assembly

/-- Which backends are in an assembly. -/
def state : Assembly → BackendState
  | .uninitialized => .uninitialized
  | .interiorPoint _ _ => .pureInteriorPoint
  | .trustRegion _ _ _ _ _ => .trustRegionActive
  | .asymptotes _ _ _ _ => .movingAsymptotesActive

/-- The model that an assembly is bound to. -/
def bound? : Assembly → Option Nat
  | .trustRegion _ _ _ _ bound => some bound
  | _ => none

/-- The backends of an assembly by role and serial number, the outer one first. -/
def roster : Assembly → List (Role × Nat)
  | .uninitialized => []
  | .interiorPoint ip target => [(.interiorPoint target.kind, ip)]
  | .trustRegion tr _ ip target _ => [(.trustRegion, tr), (.interiorPoint target.kind, ip)]
  | .asymptotes mma _ ip target => [(.asymptotes, mma), (.interiorPoint target.kind, ip)]

/-- The backends of an assembly fit each other. -/
def Wired : Assembly → Prop
  | .uninitialized => True
  | .interiorPoint _ target => target = .problem
  | .trustRegion _ subproblem _ target bound => subproblem = bound ∧ target = .subproblem bound
  | .asymptotes mma source _ target => source = .optimized ∧ target = .surrogate mma

end Assembly

variable {R : Type} {kit : SolverKit R}

namespace Backends

/-- What live backends were built on. -/
def assembly : Backends kit → Assembly
  | .uninitialized => .uninitialized
  | .interiorPoint ip => .interiorPoint ip.serial ip.target
  | .trustRegion tr ip bound => .trustRegion tr.serial tr.subproblem ip.serial ip.target bound
  | .asymptotes mma ip => .asymptotes mma.serial mma.source ip.serial ip.target

/-- The live backends by role and serial number, the outer one first. -/
def roster (backends : Backends kit) : List (Role × Nat) :=
  backends.assembly.roster

/-- Only backends are on the roster. -/
theorem ne_curvature_of_mem_roster (backends : Backends kit) :
    ∀ backend ∈ backends.roster, backend.1 ≠ .curvature := by
  cases backends <;> simp [roster, assembly, Assembly.roster]

/-- The state can be read off what the backends were built on. -/
theorem state_eq (backends : Backends kit) : backends.state = backends.assembly.state := by
  cases backends <;> rfl

/-- So can the model that the backends are bound to. -/
theorem bound?_eq (backends : Backends kit) : backends.bound? = backends.assembly.bound? := by
  cases backends <;> rfl

end Backends

namespace Algorithm

/-- The part that the outermost backend of a strategy has. -/
def outerRole : Algorithm → Role
  | .interiorPoint => .interiorPoint .problem
  | .trustRegion => .trustRegion
  | .movingAsymptotes => .asymptotes

end Algorithm

namespace Request

/-- What the backends for a request are built on, when serial numbers go on from a number. -/
def assembly (next : Nat) : Request → Assembly
  | .interiorPoint _ => .interiorPoint next .problem
  | .trustRegion handle => .trustRegion (next + 1) handle next (.subproblem handle) handle
  | .asymptotes => .asymptotes next .optimized (next + 1) (.surrogate next)

/-- The backends for a request in the order in which they are built. -/
def builds (next : Nat) : Request → List (Role × Nat)
  | .interiorPoint _ => [(.interiorPoint .problem, next)]
  | .trustRegion _ => [(.interiorPoint .subproblem, next), (.trustRegion, next + 1)]
  | .asymptotes => [(.asymptotes, next), (.interiorPoint .surrogate, next + 1)]

/-- Exactly the backends of the assembly are built. -/
theorem builds_perm_roster (request : Request) (next : Nat) :
    (request.builds next).Perm (request.assembly next).roster := by
  cases request with
  | interiorPoint checkpoint => exact List.Perm.refl _
  | trustRegion handle => exact List.Perm.swap _ _ _
  | asymptotes => exact List.Perm.refl _

/-- Only backends are built for a request. -/
theorem ne_curvature_of_mem_builds (request : Request) (next : Nat) :
    ∀ backend ∈ request.builds next, backend.1 ≠ .curvature := by
  cases request <;> simp [builds]

/-- The backends built for a request are those of its strategy. -/
@[simp] theorem assembly_algorithm? (request : Request) (next : Nat) :
    (request.assembly next).state.algorithm? = some request.algorithm := by
  cases request <;> rfl

/-- The backends built for a request fit each other. -/
theorem assembly_wired (request : Request) (next : Nat) : (request.assembly next).Wired := by
  cases request with
  | interiorPoint checkpoint => exact rfl
  | trustRegion handle => exact ⟨rfl, rfl⟩
  | asymptotes => exact ⟨rfl, rfl⟩

end Request

end StrategyCoordinator
