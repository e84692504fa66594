import StrategyCoordinator.Proofs.Coordinator.Holding
import StrategyCoordinator.Proofs.Coordinator.Lifetime
import StrategyCoordinator.Solvers.Elementary

/-!
# The live backends fit each other

In every reachable state the interior-point backend targets what the strategy asks for: the
problem itself, the model that the trust-region backend was built on too, or the surrogate
that came with the moving-asymptotes backend. That holds whatever is put in place of the
coordinator's own model in the meantime, since only a transition changes what the live
backends were built on. The first call that is not refused leaves the uninitialized state for
good.
-/

namespace StrategyCoordinator

variable {R : Type} {kit : SolverKit R}

/-- Backends that serve a request are those of its strategy. -/
theorem Backends.algorithm?_of_serves {backends : Backends kit} {request : Request}
    (h : backends.serves request = true) :
    backends.state.algorithm? = some request.algorithm := by
  cases request with
  | interiorPoint checkpoint =>
    have hstate : backends.state = .pureInteriorPoint := eq_of_beq h
    rw [hstate]
    rfl
  | trustRegion handle =>
    have hbound : backends.bound? = some handle := eq_of_beq h
    cases backends with
    | trustRegion tr ip bound => rfl
    | uninitialized | interiorPoint ip | asymptotes mma ip => cases hbound
  | asymptotes =>
    have hstate : backends.state = .movingAsymptotesActive := eq_of_beq h
    rw [hstate]
    rfl

namespace Session

/-- After a transition the backends of the requested strategy are live. -/
theorem alignedAssembly_algorithm? (s : Session kit) (request : Request) :
    (s.alignedAssembly request).state.algorithm? = some request.algorithm := by
  unfold alignedAssembly
  split
  next hserves =>
    rw [← Backends.state_eq]
    exact Backends.algorithm?_of_serves hserves
  next => exact request.assembly_algorithm? s.workshop.nextSerial

/-- The same, said of the state after the transition. -/
theorem transition_algorithm? (s : Session kit) (request : Request) :
    (s.transition request).state.algorithm? = some request.algorithm := by
  obtain ⟨-, -, -, -, hassembly, -, -⟩ := s.transition_aligned request
  rw [state, Backends.state_eq, hassembly]
  exact s.alignedAssembly_algorithm? request

/-- The live backends fit each other, and what they were built on is there. -/
structure Sound (problem : Problem R) (s : Session kit) : Prop where
  problem : s.workshop.problem = problem
  wired : s.backends.assembly.Wired
  stocked : s.Stocked
  surrogate : ∀ mma source ip target, s.backends.assembly = .asymptotes mma source ip target →
    (s.workshop.surrogates.get? mma).isSome = true

namespace Sound

variable {problem : Problem R} {s s' : Session kit}

/-- At the start nothing is live. -/
theorem new (problem : Problem R) (options : OptionStore) :
    (Session.new kit problem options).Sound problem :=
  ⟨rfl, trivial, new_stocked kit problem options, nofun⟩

/-- A log record changes nothing of it. -/
theorem log (h : s.Sound problem) (record : LogRecord) : (s.log record).Sound problem :=
  ⟨h.problem, h.wired, h.stocked.log record, h.surrogate⟩

/-- What is done aside leaves the live backends. -/
theorem aside (h : s.Sound problem) (haside : s.Aside s') (hstocked : s'.Stocked) :
    s'.Sound problem := by
  refine ⟨haside.problem.trans h.problem, ?_, hstocked, ?_⟩
  · rw [haside.backends]
    exact h.wired
  · rw [haside.backends, haside.surrogates]
    exact h.surrogate

/-- Fresh backends fit each other by the way they are built. -/
theorem transition (h : s.Sound problem) {request : Request}
    (hown : ∀ handle, request = .trustRegion handle → s.subproblem = some handle) :
    (s.transition request).Sound problem := by
  have hstocked := h.stocked.transition hown
  cases hserves : s.backends.serves request with
  | true => rwa [s.transition_of_serves hserves]
  | false =>
    have hreplaced := s.transition_replacedFor hserves
    refine ⟨hreplaced.problem.trans h.problem, ?_, hstocked, ?_⟩
    · rw [hreplaced.assembly]
      exact request.assembly_wired s.workshop.nextSerial
    · intro mma source ip target hassembly
      rw [hreplaced.assembly] at hassembly
      cases request with
      | interiorPoint checkpoint => cases hassembly
      | trustRegion handle => cases hassembly
      | asymptotes =>
        cases hassembly
        exact hreplaced.surrogate rfl

/-- A run exchanges no backend. -/
theorem run (h : s.Sound problem) (hrun : s.RunLeaves s') : s'.Sound problem := by
  refine ⟨hrun.problem.trans h.problem, ?_, h.stocked.run hrun, ?_⟩
  · rw [hrun.assembly]
    exact h.wired
  · intro mma source ip target hassembly
    rw [hrun.surrogates]
    exact h.surrogate mma source ip target (hrun.assembly ▸ hassembly)

variable [Scalar R]

/-- Every operation keeps the backends fitting each other. -/
theorem perform (h : s.Sound problem) (operation : Operation kit) :
    (s.perform operation).1.Sound problem := by
  by_cases hruns : ∃ condition, operation = .optimize condition
  · obtain ⟨condition, rfl⟩ := hruns
    refine optimize_invariant (P := Sound problem) (fun _ record hs => hs.log record) ?_
      (fun _ _ hown hs => hs.transition hown) (fun _ _ hrun hs => hs.run hrun) s condition h
    intro s request resolved hresolve hs
    exact hs.aside (resolve_aside hresolve) (hs.stocked.resolve hresolve)
  · exact h.aside (s.perform_aside fun condition heq => hruns ⟨condition, heq⟩)
      (s.perform_stocked operation h.stocked)

end Sound

variable [Scalar R]

/-- After every history the live backends fit each other. -/
theorem performAll_sound (problem : Problem R) (options : OptionStore)
    (operations : List (Operation kit)) :
    ((new kit problem options).performAll operations).Sound problem :=
  performAll_invariant (fun _ operation hs => hs.perform operation) (.new problem options)
    operations

/-- After a call that is not refused the backends of the selected strategy are live. -/
theorem algorithm?_of_not_refused {s : Session kit} {condition : kit.Condition}
    (h : isRefusal (s.optimize condition).2 = false) :
    ∃ algorithm, s.options.readAlgorithm = .ok algorithm ∧
      (s.optimize condition).1.state.algorithm? = some algorithm := by
  obtain ⟨request, resolved, hresolve⟩ := exists_resolve_of_not_refused h
  have hcarried := optimize_of_ok hresolve condition
  refine ⟨request.algorithm, (resolve_cases hresolve).1, ?_⟩
  rw [state, Backends.state_eq, hcarried.assembly]
  exact resolved.alignedAssembly_algorithm? request

/-- An operation leaves the coordinator uninitialized exactly if it was so before and the
operation is no call, or a refused one. -/
theorem state_perform_eq_uninitialized (s : Session kit) (operation : Operation kit) :
    (s.perform operation).1.state = .uninitialized ↔ s.state = .uninitialized ∧
      ∀ condition, operation = .optimize condition →
        isRefusal (s.optimize condition).2 = true := by
  cases (Step.mk s operation).kind with
  | aside haside =>
    rw [state, (s.perform_aside haside).backends]
    exact ⟨fun h => ⟨h, fun condition heq => absurd heq (haside condition)⟩, And.left⟩
  | refused condition hresolve =>
    have hafter : (s.perform (.optimize condition)).1 = s.log (.refused _) :=
      Step.after_of_error hresolve condition
    rw [hafter]
    refine ⟨fun h => ⟨h, ?_⟩, And.left⟩
    rintro other ⟨⟩
    exact (s.isRefusal_optimize_iff condition).mpr ⟨_, hresolve⟩
  | carriedOut condition hresolve =>
    have hcarried := not_refused_of_resolve hresolve condition
    obtain ⟨algorithm, -, halgorithm⟩ := algorithm?_of_not_refused hcarried
    constructor
    · intro hstate
      have hnone : (s.optimize condition).1.state = .uninitialized := hstate
      rw [hnone] at halgorithm
      cases halgorithm
    · rintro ⟨-, hall⟩
      rw [hall condition rfl] at hcarried
      cases hcarried

/-- The coordinator is uninitialized exactly as long as every call was refused. -/
theorem state_performAll_eq_uninitialized (s : Session kit) (operations : List (Operation kit)) :
    (s.performAll operations).state = .uninitialized ↔ s.state = .uninitialized ∧
      ∀ step ∈ s.steps operations, ∀ condition, step.operation = .optimize condition →
        isRefusal (step.before.optimize condition).2 = true := by
  induction operations generalizing s with
  | nil => exact ⟨fun h => ⟨h, fun step hstep => absurd hstep List.not_mem_nil⟩, And.left⟩
  | cons operation rest ih =>
    have hfirst := s.state_perform_eq_uninitialized operation
    show ((s.perform operation).1.performAll rest).state = .uninitialized ↔ _
    rw [ih, hfirst, steps, List.forall_mem_cons, and_assoc]

end Session

end StrategyCoordinator
