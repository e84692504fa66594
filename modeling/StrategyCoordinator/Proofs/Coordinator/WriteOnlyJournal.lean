import StrategyCoordinator.Coordinator.Operation

/-!
# Nothing depends on the journal

The journal is written and never read: what an operation answers, what it changes and what it
enters in the journal are the same whatever the journal held before. Each function of the
coordinator therefore commutes with putting entries in front of the journal, and an operation
can be followed with an empty journal first and its entries be appended afterwards.
-/

namespace StrategyCoordinator

variable {R : Type} {kit : SolverKit R}

namespace Workshop

/-- The workshop with entries in front of its journal. -/
def precededBy (w : Workshop kit) (before : Journal) : Workshop kit :=
  { w with journal := before ++ w.journal }

/-- Entering an event does not depend on the entries before it. -/
@[simp] theorem happen_precededBy (w : Workshop kit) (before : Journal) (event : Event) :
    (w.precededBy before).happen event = (w.happen event).precededBy before := by
  simp [happen, precededBy]

/-- Entering a log record does not depend on the entries before it. -/
@[simp] theorem log_precededBy (w : Workshop kit) (before : Journal) (record : LogRecord) :
    (w.precededBy before).log record = (w.log record).precededBy before := by
  simp [log, precededBy]

/-- Counting an object does not depend on the journal. -/
@[simp] theorem count_precededBy (w : Workshop kit) (before : Journal) (role : Role) :
    (w.precededBy before).count role = (w.count role).precededBy before := by
  simp [count, happen, precededBy]

/-- Handing out a checkpoint file does not depend on the journal. -/
@[simp] theorem handCheckpoint_precededBy (w : Workshop kit) (before : Journal)
    (checkpoint : Option String) :
    (w.precededBy before).handCheckpoint checkpoint =
      (w.handCheckpoint checkpoint).precededBy before := by
  cases checkpoint with
  | none => rfl
  | some path => exact happen_precededBy w before (.checkpoint path)

/-- Building an interior-point backend does not depend on the journal. -/
@[simp] theorem buildInteriorPoint_precededBy (w : Workshop kit) (before : Journal)
    (options : OptionStore) (target : Target) :
    (w.precededBy before).buildInteriorPoint options target =
      (w.buildInteriorPoint options target).map id (·.precededBy before) := by
  simp only [buildInteriorPoint, log_precededBy, count_precededBy]
  rfl

/-- Building a trust-region backend does not depend on the journal. -/
@[simp] theorem buildTrustRegion_precededBy (w : Workshop kit) (before : Journal)
    (options : OptionStore) (subproblem : Nat) :
    (w.precededBy before).buildTrustRegion options subproblem =
      (w.buildTrustRegion options subproblem).map id (·.precededBy before) := by
  simp only [buildTrustRegion, log_precededBy, count_precededBy]
  rfl

/-- Building a moving-asymptotes backend does not depend on the journal. -/
@[simp] theorem buildAsymptotes_precededBy (w : Workshop kit) (before : Journal)
    (options : OptionStore) :
    (w.precededBy before).buildAsymptotes options =
      (w.buildAsymptotes options).map id (·.precededBy before) := by
  simp only [buildAsymptotes, log_precededBy, count_precededBy]
  rfl

section Arithmetic

variable [Scalar R]

/-- Building a model does not depend on the journal. -/
@[simp] theorem buildModel_precededBy (w : Workshop kit) (before : Journal)
    (source : ProblemObject R) (kind : QuasiNewtonKind) (size : Nat) :
    (w.precededBy before).buildModel source kind size =
      (w.buildModel source kind size).map id (·.precededBy before) := by
  simp only [buildModel, count_precededBy]
  rfl

/-- Building a model of the coordinator's problem does not depend on the journal. -/
@[simp] theorem buildSubproblem_precededBy (w : Workshop kit) (before : Journal)
    (kind : QuasiNewtonKind) (size : Nat) :
    (w.precededBy before).buildSubproblem kind size =
      (w.buildSubproblem kind size).map id (·.precededBy before) := by
  simp only [buildSubproblem, log_precededBy, buildModel_precededBy]
  rfl

/-- Building the configured model does not depend on the journal. -/
@[simp] theorem buildConfiguredSubproblem_precededBy (w : Workshop kit) (before : Journal)
    (options : OptionStore) :
    (w.precededBy before).buildConfiguredSubproblem options =
      (w.buildConfiguredSubproblem options).map (Prod.map id (·.precededBy before)) := by
  unfold buildConfiguredSubproblem
  cases options.readQuasiNewton with
  | error e => rfl
  | ok configured => exact congrArg Except.ok (buildSubproblem_precededBy w before _ _)

/-- What a target stands for does not depend on the journal. -/
@[simp] theorem lend_precededBy (w : Workshop kit) (before : Journal) (target : Target) :
    (w.precededBy before).lend target = w.lend target := by
  cases target <;> rfl

/-- Solving a target does not depend on the journal. -/
@[simp] theorem solve_precededBy (condition : kit.Condition) (checkpoint : Option String)
    (w : Workshop kit) (before : Journal) (ip : LiveInteriorPoint kit) :
    solve condition checkpoint (w.precededBy before) ip =
      (solve condition checkpoint w ip).map (·.precededBy before) id := by
  simp only [solve, happen_precededBy, handCheckpoint_precededBy, lend_precededBy]
  split <;> rfl

/-- The result of a run with entries in front of its journal. -/
def RunResult.precededBy {B : Type} (result : RunResult kit B) (before : Journal) :
    RunResult kit B :=
  { result with workshop := result.workshop.precededBy before }

/-- The run of a trust-region backend does not depend on the journal. -/
@[simp] theorem performTrustRegion_precededBy (condition : kit.Condition) (handle : Nat)
    (backend : kit.TrustRegion) (w : Workshop kit) (before : Journal)
    (ip : LiveInteriorPoint kit) (run : TrustRegionRun R kit.Curvature kit.TrustRegion) :
    performTrustRegion condition handle backend (w.precededBy before) ip run =
      (performTrustRegion condition handle backend w ip run).precededBy before := by
  have hmodels : (w.precededBy before).models = w.models := rfl
  induction run generalizing w ip with
  | finish => rfl
  | inspect next ih =>
    simp only [performTrustRegion, hmodels]
    cases w.models.get? handle with
    | none => rfl
    | some model => exact ih model w ip rfl
  | setCenter x next ih =>
    simp only [performTrustRegion, hmodels]
    cases w.models.get? handle with
    | none => rfl
    | some model =>
      cases hcenter : model.setCenter x with
      | error failure =>
        simp only [hcenter]
        exact ih (.error failure) w ip rfl
      | ok moved =>
        simp only [hcenter]
        exact ih (.ok ()) { w with models := _ } ip rfl
  | setRadius radius next ih => exact ih { w with models := _ } ip rfl
  | updateCurvature s y next ih =>
    simp only [performTrustRegion, hmodels]
    cases w.models.get? handle with
    | none => rfl
    | some model => exact ih _ { w with models := _ } ip rfl
  | solve checkpoint next ih =>
    simp only [performTrustRegion, solve_precededBy]
    exact ih _ _ (Workshop.solve condition checkpoint w ip).1 _ rfl

/-- The run of a moving-asymptotes backend does not depend on the journal. -/
@[simp] theorem performAsymptotes_precededBy (condition : kit.Condition) (owner : Nat)
    (w : Workshop kit) (before : Journal) (ip : LiveInteriorPoint kit)
    (run : AsymptotesRun R kit.Asymptotes) :
    performAsymptotes condition owner (w.precededBy before) ip run =
      (performAsymptotes condition owner w ip run).precededBy before := by
  induction run generalizing w ip with
  | finish => rfl
  | setSurrogate surrogate next ih => exact ih { w with surrogates := _ } ip
  | solve checkpoint next ih =>
    simp only [performAsymptotes, solve_precededBy]
    exact ih _ _ (Workshop.solve condition checkpoint w ip).1 _

end Arithmetic

end Workshop

namespace Session

/-- The coordinator with entries in front of its journal. -/
def precededBy (s : Session kit) (before : Journal) : Session kit :=
  { s with workshop := s.workshop.precededBy before }

/-- A state is its own with an empty journal, preceded by the entries it has. -/
theorem takeJournal_precededBy (s : Session kit) :
    s.takeJournal.2.precededBy s.workshop.journal = s := by
  simp [takeJournal, precededBy, Workshop.precededBy]

/-- Entering a log record does not depend on the entries before it. -/
@[simp] theorem log_precededBy (s : Session kit) (before : Journal) (record : LogRecord) :
    (s.precededBy before).log record = (s.log record).precededBy before := by
  simp [log, precededBy]

/-- Entering an event does not depend on the entries before it. -/
@[simp] theorem happen_precededBy (s : Session kit) (before : Journal) (event : Event) :
    (s.precededBy before).happen event = (s.happen event).precededBy before := by
  simp [happen, precededBy]

/-- Letting go of a model does not depend on the journal. -/
@[simp] theorem letGo_precededBy (s : Session kit) (before : Journal) (handle : Option Nat) :
    (s.precededBy before).letGo handle = (s.letGo handle).precededBy before := by
  cases handle with
  | none => rfl
  | some handle =>
    have hheld : (s.precededBy before).isHeld handle = s.isHeld handle := rfl
    simp only [letGo, hheld, happen_precededBy]
    split <;> rfl

/-- Discarding the live backends does not depend on the journal. -/
@[simp] theorem discardBackends_precededBy (s : Session kit) (before : Journal) :
    (s.precededBy before).discardBackends = s.discardBackends.precededBy before := by
  have hrest : (s.precededBy before).withoutBackends = s.withoutBackends.precededBy before := rfl
  have hbackends : (s.precededBy before).backends = s.backends := rfl
  unfold discardBackends
  simp only [hrest, hbackends]
  cases s.backends with
  | uninitialized => rfl
  | interiorPoint ip => simp only [dropInteriorPoint, log_precededBy, happen_precededBy]
  | trustRegion tr ip bound =>
    simp only [dropInteriorPoint, dropTrustRegion, log_precededBy, happen_precededBy,
      letGo_precededBy]
  | asymptotes mma ip =>
    simp only [dropInteriorPoint, dropAsymptotes, log_precededBy, happen_precededBy]
    rfl

/-- Replacing the coordinator's own handle does not depend on the journal. -/
@[simp] theorem replaceHandle_precededBy (s : Session kit) (before : Journal)
    (handle : Option Nat) :
    (s.precededBy before).replaceHandle handle = (s.replaceHandle handle).precededBy before :=
  letGo_precededBy { s with subproblem := handle } before s.subproblem

/-- Putting a model in place does not depend on the journal. -/
@[simp] theorem setSubproblem_precededBy (s : Session kit) (before : Journal) (handle : Nat) :
    (s.precededBy before).setSubproblem handle = (s.setSubproblem handle).precededBy before := by
  have hforeign : (s.precededBy before).isForeign handle = s.isForeign handle := rfl
  simp only [setSubproblem, hforeign]
  split <;> simp only [log_precededBy, replaceHandle_precededBy]

/-- Giving up the model does not depend on the journal. -/
@[simp] theorem clearSubproblem_precededBy (s : Session kit) (before : Journal) :
    (s.precededBy before).clearSubproblem = s.clearSubproblem.precededBy before := by
  simp only [clearSubproblem, log_precededBy, replaceHandle_precededBy]

/-- Keeping a handle does not depend on the journal. -/
@[simp] theorem hold_precededBy (s : Session kit) (before : Journal) (name : String) :
    (s.precededBy before).hold name = (s.hold name).map id (·.precededBy before) := by
  have hown : (s.precededBy before).subproblem = s.subproblem := rfl
  unfold hold
  rw [hown]
  split
  next => rfl
  next handle _ =>
    exact congrArg (Prod.mk true)
      (letGo_precededBy { s with held := s.held.insert name handle } before (s.held.find? name))

/-- Letting go of a kept handle does not depend on the journal. -/
@[simp] theorem release_precededBy (s : Session kit) (before : Journal) (name : String) :
    (s.precededBy before).release name = (s.release name).map id (·.precededBy before) := by
  have hheld : (s.precededBy before).held = s.held := rfl
  unfold release
  rw [hheld]
  cases s.held.find? name with
  | none => rfl
  | some handle =>
    exact congrArg (Prod.mk true)
      (letGo_precededBy { s with held := s.held.erase name } before (some handle))

/-- Putting a kept model in place does not depend on the journal. -/
@[simp] theorem setHeldSubproblem_precededBy (s : Session kit) (before : Journal)
    (name : String) :
    (s.precededBy before).setHeldSubproblem name =
      (s.setHeldSubproblem name).precededBy before := by
  have hheld : (s.precededBy before).held = s.held := rfl
  unfold setHeldSubproblem
  rw [hheld]
  cases s.held.find? name with
  | none => rfl
  | some handle => exact setSubproblem_precededBy s before handle

/-- Changing a model through a handle does not depend on the journal. -/
@[simp] theorem changeThrough_precededBy (s : Session kit) (before : Journal)
    (handle : Option Nat) (change : ModelChange R) :
    (s.precededBy before).changeThrough handle change =
      (s.changeThrough handle change).map id (·.precededBy before) := by
  have hmodels : (s.precededBy before).workshop.models = s.workshop.models := rfl
  cases handle with
  | none => rfl
  | some handle =>
    simp only [changeThrough, hmodels]
    cases s.workshop.models.get? handle <;> rfl

/-- Installing an interior-point backend does not depend on the journal. -/
@[simp] theorem installInteriorPoint_precededBy (s : Session kit) (before : Journal) :
    (s.precededBy before).installInteriorPoint = s.installInteriorPoint.precededBy before := by
  simp only [installInteriorPoint, discardBackends_precededBy]
  generalize s.discardBackends = rest
  simp only [precededBy, Workshop.buildInteriorPoint_precededBy, Prod.map_fst, Prod.map_snd, id]

/-- Installing trust-region backends does not depend on the journal. -/
@[simp] theorem installTrustRegion_precededBy (s : Session kit) (before : Journal)
    (handle : Nat) :
    (s.precededBy before).installTrustRegion handle =
      (s.installTrustRegion handle).precededBy before := by
  have hstate : (s.precededBy before).state = s.state := rfl
  have hlogged : (if s.state = .trustRegionActive then
        (s.precededBy before).log .boundSubproblemReplaced else s.precededBy before) =
      (if s.state = .trustRegionActive then s.log .boundSubproblemReplaced else s).precededBy
        before := by
    split
    · exact log_precededBy s before .boundSubproblemReplaced
    · rfl
  simp only [installTrustRegion, hstate, hlogged, discardBackends_precededBy]
  generalize (if s.state = .trustRegionActive then s.log .boundSubproblemReplaced
    else s).discardBackends = rest
  simp only [precededBy, Workshop.buildInteriorPoint_precededBy,
    Workshop.buildTrustRegion_precededBy, Prod.map_fst, Prod.map_snd, id]

/-- Installing a moving-asymptotes backend does not depend on the journal. -/
@[simp] theorem installAsymptotes_precededBy (s : Session kit) (before : Journal) :
    (s.precededBy before).installAsymptotes = s.installAsymptotes.precededBy before := by
  simp only [installAsymptotes, discardBackends_precededBy]
  generalize s.discardBackends = rest
  simp only [precededBy, Workshop.buildAsymptotes_precededBy,
    Workshop.buildInteriorPoint_precededBy, Prod.map_fst, Prod.map_snd, id]

/-- Bringing the backends in line with a request does not depend on the journal. -/
@[simp] theorem transition_precededBy (s : Session kit) (before : Journal) (request : Request) :
    (s.precededBy before).transition request = (s.transition request).precededBy before := by
  have hbackends : (s.precededBy before).backends = s.backends := rfl
  simp only [transition, hbackends]
  split
  · rfl
  · cases request with
    | interiorPoint checkpoint => exact installInteriorPoint_precededBy s before
    | trustRegion handle => exact installTrustRegion_precededBy s before handle
    | asymptotes => exact installAsymptotes_precededBy s before

section Arithmetic

variable [Scalar R]

/-- Building a model and putting it in place does not depend on the journal. -/
@[simp] theorem injectSubproblem_precededBy (s : Session kit) (before : Journal)
    (kind : QuasiNewtonKind) (size : Nat) (problem : Option (Problem R)) :
    (s.precededBy before).injectSubproblem kind size problem =
      (s.injectSubproblem kind size problem).precededBy before := by
  have hshop : (s.precededBy before).workshop = s.workshop.precededBy before := rfl
  simp only [injectSubproblem, hshop, Workshop.buildModel_precededBy]
  exact setSubproblem_precededBy { s with workshop := _ } before _

/-- Resolving the configuration does not depend on the journal. -/
@[simp] theorem resolve_precededBy (s : Session kit) (before : Journal) :
    (s.precededBy before).resolve = s.resolve.map (Prod.map id (·.precededBy before)) := by
  have hoptions : (s.precededBy before).options = s.options := rfl
  have hown : (s.precededBy before).subproblem = s.subproblem := rfl
  have hshop : (s.precededBy before).workshop = s.workshop.precededBy before := rfl
  unfold resolve ensureSubproblem
  rw [hoptions, hown, hshop, Workshop.buildConfiguredSubproblem_precededBy]
  cases s.options.readAlgorithm with
  | error e => rfl
  | ok algorithm =>
    cases algorithm with
    | interiorPoint => cases s.options.readCheckpoint <;> rfl
    | trustRegion =>
      cases s.subproblem with
      | some handle => rfl
      | none => cases s.workshop.buildConfiguredSubproblem s.options <;> rfl
    | movingAsymptotes => rfl

/-- Running the outer backend does not depend on the journal. -/
@[simp] theorem runBackends_precededBy (s : Session kit) (before : Journal)
    (condition : kit.Condition) (checkpoint : Option String) :
    (s.precededBy before).runBackends condition checkpoint =
      (s.runBackends condition checkpoint).map (·.precededBy before) id := by
  have hbackends : (s.precededBy before).backends = s.backends := rfl
  have hshop : (s.precededBy before).workshop = s.workshop.precededBy before := rfl
  unfold runBackends
  rw [hbackends, hshop]
  cases s.backends with
  | uninitialized => rfl
  | interiorPoint ip => simp only [Workshop.solve_precededBy]; rfl
  | trustRegion tr ip bound =>
    simp only [Workshop.happen_precededBy, Workshop.performTrustRegion_precededBy]
    rfl
  | asymptotes mma ip =>
    simp only [Workshop.happen_precededBy, Workshop.performAsymptotes_precededBy]
    rfl

/-- Running the selected strategy does not depend on the journal. -/
@[simp] theorem optimize_precededBy (s : Session kit) (before : Journal)
    (condition : kit.Condition) :
    (s.precededBy before).optimize condition =
      (s.optimize condition).map (·.precededBy before) id := by
  unfold optimize
  rw [resolve_precededBy]
  cases s.resolve with
  | error e => exact congrArg (·, Except.error e) (log_precededBy s before (.refused e))
  | ok resolved =>
    obtain ⟨request, r⟩ := resolved
    have hstate : (r.precededBy before).state = r.state := rfl
    simp only [Except.map, Prod.map_apply, id, hstate, log_precededBy, transition_precededBy,
      runBackends_precededBy]
    generalize ((r.log (.started request.algorithm r.state)).transition request).runBackends
      condition request.checkpoint = ran
    obtain ⟨final, outcome⟩ := ran
    cases outcome with
    | error failure => rfl
    | ok => exact congrArg (·, Except.ok ()) (log_precededBy final before _)

/-- No operation depends on the journal. -/
theorem perform_precededBy (s : Session kit) (before : Journal) (operation : Operation kit) :
    (s.precededBy before).perform operation =
      (s.perform operation).map (·.precededBy before) id := by
  have hown : (s.precededBy before).subproblem = s.subproblem := rfl
  have hheld : (s.precededBy before).held = s.held := rfl
  cases operation with
  | setOptions options => rfl
  | changeModel change => simp only [perform, hown, changeThrough_precededBy]; rfl
  | changeHeld name change => simp only [perform, hheld, changeThrough_precededBy]; rfl
  | inject kind size problem => simp only [perform, injectSubproblem_precededBy]; rfl
  | injectHeld name => simp only [perform, setHeldSubproblem_precededBy]; rfl
  | clear => simp only [perform, clearSubproblem_precededBy]; rfl
  | hold name => simp only [perform, hold_precededBy]; rfl
  | release name => simp only [perform, release_precededBy]; rfl
  | optimize condition => simp only [perform, optimize_precededBy]; rfl

end Arithmetic

end Session

end StrategyCoordinator
