import StrategyCoordinator.Proofs.Coordinator.Contents
import StrategyCoordinator.Proofs.Coordinator.Reuse
import StrategyCoordinator.Solvers.Elementary

/-!
# The inner solver sees the current model

The coordinator, its callers, the trust-region backend and the target of the interior-point backend
reach one model by its handle. That this is as good as a model that nobody else has is said in two
parts. In the course of a run, each request finds the model that the requests before it have made:
the run is the one that keeps nothing but the list of the changes so far. Between operations, what
the target shows is the model after all the changes that were made through any of its handles.
-/

namespace StrategyCoordinator

variable {R Q : Type}

/-- A cost function shows an evaluation: the same value, or the message of the error. -/
def Evaluation.ShownAsCost {α : Type} (evaluation : Evaluation α)
    (cost : Except Problem.CostFailure α) : Prop :=
  (∀ value, cost = .ok value ↔ evaluation = .ok value) ∧
    ∀ text, cost = .error (.message text) ↔
      ∃ error, evaluation = .error (.reported error) ∧ text = error.message

/-- Evaluations are shown as cost functions show them. -/
theorem Evaluation.shownAsCost {α : Type} (evaluation : Evaluation α) :
    evaluation.ShownAsCost (Problem.asCost evaluation) := by
  cases evaluation with
  | ok value => exact ⟨fun other => by simp [Problem.asCost], fun text => by simp [Problem.asCost]⟩
  | error failure =>
    cases failure with
    | reported error =>
      exact ⟨fun value => by simp [Problem.asCost], fun text => by simp [Problem.asCost, eq_comm]⟩
    | shapeMismatch =>
      exact ⟨fun value => by simp [Problem.asCost], fun text => by simp [Problem.asCost]⟩

/-- A problem presents a model: every evaluation of it is that of the model, also as a cost
function. -/
structure Problem.Presents [Scalar R] [QuasiNewton R Q] (p : Problem R)
    (m : QuadraticModel R Q) : Prop where
  bounds : p.bounds = m.bounds
  variableCount : p.variableCount = m.source.problem.variableCount
  constraintCount : p.constraintCount = m.source.problem.constraintCount
  initialPoint : p.initialPoint = m.initialPoint
  objective : ∀ x, p.objective x = m.objective x
  gradient : ∀ x, p.gradient x = m.gradient x
  constraints : ∀ x, p.constraints x = m.constraints x
  constraintJacobian : ∀ x, p.constraintJacobian x = m.constraintJacobian x
  cost : ∀ x, (m.objective x).ShownAsCost (p.cost x)
  costGradient : ∀ x, (m.gradient x).ShownAsCost (p.costGradient x)

/-- A model as a problem presents the model. -/
theorem QuadraticModel.presents_toProblem [Scalar R] [QuasiNewton R Q] (m : QuadraticModel R Q) :
    m.toProblem.Presents m where
  bounds := rfl
  variableCount := rfl
  constraintCount := rfl
  initialPoint := rfl
  objective _ := rfl
  gradient _ := rfl
  constraints _ := rfl
  constraintJacobian _ := rfl
  cost x := (m.objective x).shownAsCost
  costGradient x := (m.gradient x).shownAsCost

/-- What is left of a run that nobody shares a model with: the changes that it has made, the two
backends, and the outcome. -/
structure DirectRun (kit : SolverKit R) where
  changes : List (ModelChange R)
  inner : kit.InteriorPoint
  backend : kit.TrustRegion
  outcome : Except BackendFailure Unit

/-- Carry out a run when the given changes were made to a model before. Each request finds the
model after exactly these changes and those that the run has asked for so far. -/
def SolverKit.runDirectly [Scalar R] (kit : SolverKit R) (condition : kit.Condition)
    (model : QuadraticModel R kit.Curvature) :
    List (ModelChange R) → kit.InteriorPoint →
      TrustRegionRun R kit.Curvature kit.TrustRegion → DirectRun kit
  | changes, inner, .finish backend outcome => ⟨changes, inner, backend, outcome⟩
  | changes, inner, .inspect next =>
    kit.runDirectly condition model changes inner (next (model.changedBy changes))
  | changes, inner, .setCenter x next =>
    let answer := ((model.changedBy changes).setCenter x).map fun _ => ()
    kit.runDirectly condition model (changes ++ [.setCenter x]) inner (next answer)
  | changes, inner, .setRadius radius next =>
    kit.runDirectly condition model (changes ++ [.setRadius radius]) inner next
  | changes, inner, .updateCurvature s y next =>
    let used := ((model.changedBy changes).updateCurvature s y).1
    kit.runDirectly condition model (changes ++ [.updateCurvature s y]) inner (next used)
  | changes, inner, .solve checkpoint next =>
    let (inner, outcome) :=
      kit.solveTarget condition checkpoint (model.changedBy changes).toProblem inner
    kit.runDirectly condition model changes inner (next outcome (kit.solution inner))

variable {kit : SolverKit R} [Scalar R]

namespace Workshop

/-- A solve is one of the problem that the target stands for. -/
theorem solve_of_lend (condition : kit.Condition) (checkpoint : Option String) {w : Workshop kit}
    {ip : LiveInteriorPoint kit} {target : Problem R} (h : w.lend ip.target = some target) :
    (solve condition checkpoint w ip).2 =
      ({ ip with backend := (kit.solveTarget condition checkpoint target ip.backend).1 },
        (kit.solveTarget condition checkpoint target ip.backend).2) := by
  have hlend : ((w.happen (.ran (.interiorPoint ip.target.kind) ip.serial)).handCheckpoint
      checkpoint).lend ip.target = some target := by
    rw [← h]
    cases checkpoint <;> rfl
  simp only [solve, hlend]

/-- A run on the shared model of its handle is the one on a model that nobody shares, if the inner
backend targets the same handle. -/
theorem performTrustRegion_eq_runDirectly (condition : kit.Condition) {handle : Nat}
    (before : kit.TrustRegion) (w : Workshop kit) (ip : LiveInteriorPoint kit)
    (run : TrustRegionRun R kit.Curvature kit.TrustRegion)
    {model : QuadraticModel R kit.Curvature} {changes : List (ModelChange R)}
    (hmodel : w.models.get? handle = some (model.changedBy changes))
    (htarget : ip.target = .subproblem handle) :
    let direct := kit.runDirectly condition model changes ip.backend run
    let result := performTrustRegion condition handle before w ip run
    result.inner = { ip with backend := direct.inner } ∧ result.backend = direct.backend ∧
      result.outcome = direct.outcome ∧
      result.workshop.models.get? handle = some (model.changedBy direct.changes) := by
  induction run generalizing w ip changes with
  | finish backend outcome => exact ⟨rfl, rfl, rfl, hmodel⟩
  | inspect next ih =>
    simp only [performTrustRegion, hmodel]
    exact ih _ w ip hmodel htarget
  | setCenter x next ih =>
    have hchanged := model.changedBy_concat changes (.setCenter x)
    simp only [performTrustRegion, hmodel, SolverKit.runDirectly]
    cases hmoved : (model.changedBy changes).setCenter x with
    | error failure =>
      have hsame : model.changedBy (changes ++ [.setCenter x]) = model.changedBy changes := by
        rw [hchanged, ModelChange.apply, hmoved]
      exact ih _ w ip (hsame ▸ hmodel) htarget
    | ok moved =>
      have hnew : model.changedBy (changes ++ [.setCenter x]) = moved := by
        rw [hchanged, ModelChange.apply, hmoved]
      refine ih _ _ ip ?_ htarget
      rw [hnew]
      exact (hasChanged_modify hmodel fun _ => moved).1
  | setRadius radius next ih =>
    refine ih _ ip ?_ htarget
    rw [model.changedBy_concat]
    exact (hasChanged_modify hmodel (·.setRadius radius)).1
  | updateCurvature s y next ih =>
    simp only [performTrustRegion, hmodel, SolverKit.runDirectly]
    refine ih _ _ ip ?_ htarget
    rw [model.changedBy_concat]
    exact (hasChanged_modify hmodel fun _ => ((model.changedBy changes).updateCurvature s y).2).1
  | solve checkpoint next ih =>
    have hlend : w.lend ip.target = some (model.changedBy changes).toProblem := by
      rw [htarget, lend, hmodel]
      rfl
    have hmodels := models_solve condition checkpoint w ip
    have hsolved := solve_of_lend condition checkpoint hlend
    simp only [performTrustRegion, SolverKit.runDirectly]
    generalize solve condition checkpoint w ip = solved at hmodels hsolved
    obtain ⟨solved, inner, outcome⟩ := solved
    obtain ⟨rfl, rfl⟩ := Prod.mk.inj hsolved
    exact ih _ _ solved _ (hmodels ▸ hmodel) htarget

end Workshop

omit [Scalar R] in
/-- Only trust-region backends are bound to a model. -/
theorem Backends.exists_of_bound? {backends : Backends kit} {bound : Nat}
    (h : backends.bound? = some bound) : ∃ tr ip, backends = .trustRegion tr ip bound := by
  cases backends with
  | trustRegion tr ip handle =>
    obtain rfl := Option.some.inj h
    exact ⟨tr, ip, rfl⟩
  | uninitialized | interiorPoint | asymptotes => cases h

/-- The changes that live trust-region backends make to a model, which is as given, when they are
run on it. -/
def Backends.changes (backends : Backends kit) (condition : kit.Condition)
    (model : QuadraticModel R kit.Curvature) : List (ModelChange R) :=
  match backends with
  | .trustRegion tr ip _ => (kit.runDirectly condition model [] ip.backend
      (kit.runTrustRegion condition tr.backend)).changes
  | _ => []

namespace Session

variable {problem : Problem R}

/-- Live trust-region backends run on the model that they are bound to as if nobody shared it. -/
theorem runBackends_eq_runDirectly {s : Session kit} (hsound : s.Sound problem)
    (condition : kit.Condition) (checkpoint : Option String) {tr : LiveTrustRegion kit}
    {ip : LiveInteriorPoint kit} {bound : Nat} (hbackends : s.backends = .trustRegion tr ip bound)
    {model : QuadraticModel R kit.Curvature}
    (hmodel : s.workshop.models.get? bound = some model) :
    let run := kit.runDirectly condition model [] ip.backend
      (kit.runTrustRegion condition tr.backend)
    let ran := s.runBackends condition checkpoint
    ran.1.backends = .trustRegion { tr with backend := run.backend }
        { ip with backend := run.inner } bound ∧
      ran.1.workshop.models.get? bound = some (model.changedBy run.changes) ∧
      ran.2 = run.outcome := by
  have hwired := hsound.wired
  obtain ⟨workshop, options, backends, subproblem, held⟩ := s
  obtain rfl : backends = .trustRegion tr ip bound := hbackends
  obtain ⟨rfl, htarget⟩ : tr.subproblem = bound ∧ ip.target = .subproblem bound := hwired
  have hunchanged : workshop.models.get? tr.subproblem = some (model.changedBy []) := hmodel
  obtain ⟨hinner, hbackend, houtcome, hafter⟩ := Workshop.performTrustRegion_eq_runDirectly
    condition tr.backend (workshop.happen (.ran .trustRegion tr.serial)) ip
    (kit.runTrustRegion condition tr.backend) hunchanged htarget
  refine ⟨?_, hafter, houtcome⟩
  simp only [runBackends, hinner, hbackend]

/-- So does a call that hands over to them. -/
theorem optimize_eq_runDirectly {s resolved : Session kit} {handle : Nat}
    (hsound : s.Sound problem) (h : s.resolve = .ok (.trustRegion handle, resolved))
    (condition : kit.Condition) {tr : LiveTrustRegion kit} {ip : LiveInteriorPoint kit}
    (hbackends : (resolved.handedOver (.trustRegion handle)).backends = .trustRegion tr ip handle)
    {model : QuadraticModel R kit.Curvature}
    (hmodel : (resolved.handedOver (.trustRegion handle)).workshop.models.get? handle =
      some model) :
    let run := kit.runDirectly condition model [] ip.backend
      (kit.runTrustRegion condition tr.backend)
    let s' := (s.optimize condition).1
    s'.backends = .trustRegion { tr with backend := run.backend }
        { ip with backend := run.inner } handle ∧
      s'.workshop.models.get? handle = some (model.changedBy run.changes) ∧
      (s.optimize condition).2 = run.outcome.mapError .backend := by
  obtain ⟨hran, hmodels, houtcome⟩ := runBackends_eq_runDirectly (sound_handedOver hsound h)
    condition (Request.trustRegion handle).checkpoint hbackends hmodel
  obtain ⟨hafter, -, hanswer⟩ := optimize_run h condition
  obtain ⟨hshelf, -⟩ := workshop_optimize h condition
  refine ⟨hafter.trans hran, ?_, ?_⟩
  · rw [hshelf]
    exact hmodels
  · rw [hanswer, houtcome]

/-- Live backends that suit the request are handed over to as they are. -/
theorem handedOver_of_suits {s resolved : Session kit} {request : Request}
    (hsound : s.Sound problem) (h : s.resolve = .ok (request, resolved))
    (hsuits : s.backends.Suits request) :
    (resolved.handedOver request).backends = s.backends ∧
      (resolved.handedOver request).workshop.models = s.workshop.models := by
  obtain rfl := resolved_eq_of_suits hsound.stocked h hsuits
  have hserves : (resolved.log (.started request.algorithm resolved.state)).backends.serves
      request = true := Backends.serves_iff_suits.mpr hsuits
  rw [handedOver, transition_of_serves _ hserves]
  exact ⟨rfl, rfl⟩

omit [Scalar R] in
/-- What is bound is on the shelf. -/
theorem Sound.exists_bound {s : Session kit} (h : s.Sound problem) {bound : Nat}
    (hbound : s.backends.bound? = some bound) :
    ∃ model, s.workshop.models.get? bound = some model :=
  Option.isSome_iff_exists.mp (h.stocked.held bound (isHeld_iff.mpr (Or.inr (Or.inl hbound))))

end Session

namespace Step

variable {problem : Problem R}

/-- The changes that a step makes to the model of a handle, which is as given before it, when the
live backends are kept: the one that a caller asks for, or those of a run. -/
def changes (step : Step kit) (handle : Nat) (model : QuadraticModel R kit.Curvature) :
    List (ModelChange R) :=
  if step.reached? = some handle then
    match step.operation with
    | .changeModel change | .changeHeld _ change => [change]
    | .optimize condition => step.before.backends.changes condition model
    | _ => []
  else []

/-- The changes that steps make to the model of a handle one after another. -/
def changesAlong (handle : Nat) :
    List (Step kit) → QuadraticModel R kit.Curvature → List (ModelChange R)
  | [], _ => []
  | step :: rest, model =>
    let changes := step.changes handle model
    changes ++ changesAlong handle rest (model.changedBy changes)

/-- What a caller asks for through a handle of the model is what the step changes. -/
theorem changes_of_asks {step : Step kit}
    (haside : ∀ condition, step.operation ≠ .optimize condition) {handle : Nat}
    (hreached : step.reached? = some handle)
    {model : QuadraticModel R kit.Curvature} {made : List (ModelChange R)}
    (h : step.Asks model made) : step.changes handle model = made := by
  rw [changes, if_pos hreached]
  cases h with
  | changeModel | changeHeld => rfl
  | optimize => exact absurd rfl (haside _)

/-- A step that does not reach a model through a handle leaves it, if the live backends are still
bound to it. -/
theorem get?_after_of_not_reached {step : Step kit} (hsound : step.before.Sound problem)
    {bound : Nat} (hbound : step.after.backends.bound? = some bound)
    {model : QuadraticModel R kit.Curvature}
    (hmodel : step.before.workshop.models.get? bound = some model)
    (hreached : step.reached? ≠ some bound) :
    step.after.workshop.models.get? bound = some model := by
  have hafter : step.after.Sound problem := hsound.perform step.operation
  obtain ⟨left, hleft⟩ := hafter.exists_bound hbound
  have hsame := (step.leavesModels hsound).models bound left (hsound.stocked.lt_of_get? hmodel)
    hreached hleft
  rw [hleft, ← hsame, hmodel]

/-- A call that reuses live trust-region backends changes their model as their run does. -/
theorem get?_after_reused {s resolved : Session kit} {request : Request}
    (hsound : s.Sound problem) (h : s.resolve = .ok (request, resolved))
    (hsuits : s.backends.Suits request) (condition : kit.Condition) {bound : Nat}
    (hbound : s.backends.bound? = some bound) {model : QuadraticModel R kit.Curvature}
    (hmodel : s.workshop.models.get? bound = some model) :
    (s.optimize condition).1.workshop.models.get? bound =
      some (model.changedBy ((Step.mk s (.optimize condition)).changes bound model)) := by
  obtain ⟨hbackends, hmodels⟩ := Session.handedOver_of_suits hsound h hsuits
  have hrequest : request = .trustRegion bound := by
    rw [Backends.bound?_of_serves (Backends.serves_iff_suits.mpr hsuits)] at hbound
    cases request with
    | trustRegion handle => exact congrArg Request.trustRegion (Option.some.inj hbound)
    | interiorPoint | asymptotes => cases hbound
  subst hrequest
  obtain ⟨tr, ip, hlive⟩ := Backends.exists_of_bound? hbound
  have hreached : (Step.mk s (.optimize condition)).reached? = some bound := by
    simp only [reached?, h]
    rfl
  obtain ⟨-, hafter, -⟩ := Session.optimize_eq_runDirectly hsound h condition
    (hbackends.trans hlive) (hmodels ▸ hmodel)
  rw [hafter, changes, if_pos hreached]
  simp only [Backends.changes, hlive]

/-- A step that keeps the live backends leaves the model that they are bound to as its changes make
it. -/
theorem get?_after_of_kept {step : Step kit} (hsound : step.before.Sound problem)
    (hkept : step.findsUnsuited = false) {bound : Nat}
    (hbound : step.before.backends.bound? = some bound) {model : QuadraticModel R kit.Curvature}
    (hmodel : step.before.workshop.models.get? bound = some model) :
    step.after.backends.assembly = step.before.backends.assembly ∧
      step.after.workshop.models.get? bound =
        some (model.changedBy (step.changes bound model)) := by
  cases step.kind with
  | @refused s e condition hresolve =>
    have hnone : (Step.mk s (.optimize condition)).changes bound model = [] := by
      rw [changes, reached?]
      simp only [hresolve]
      rfl
    rw [after_of_error hresolve, hnone]
    exact ⟨rfl, hmodel⟩
  | @carriedOut s resolved request condition hresolve =>
    have hsuits : s.backends.Suits request := by
      rw [findsUnsuited, hresolve] at hkept
      simpa using hkept
    exact ⟨(Session.optimize_reused hsound.stocked hresolve hsuits condition).assembly,
      get?_after_reused hsound hresolve hsuits condition hbound hmodel⟩
  | aside haside =>
    have hbackends : step.after.backends = step.before.backends :=
      (step.before.perform_aside haside).backends
    refine ⟨congrArg Backends.assembly hbackends, ?_⟩
    by_cases hreached : step.reached? = some bound
    · obtain ⟨made, hasks, hafter⟩ := get?_after hsound hreached hmodel
      rw [changes_of_asks haside hreached hasks]
      exact hafter
    · rw [changes, if_neg hreached]
      rw [← hbackends] at hbound
      exact get?_after_of_not_reached hsound hbound hmodel hreached

end Step

namespace Session

variable {problem : Problem R}

/-- While the live backends are kept, the model that they are bound to is what the changes through
all of its handles have made it. -/
theorem get?_performAll_of_kept {s : Session kit} (hsound : s.Sound problem) {bound : Nat}
    (hbound : s.backends.bound? = some bound) {model : QuadraticModel R kit.Curvature}
    (hmodel : s.workshop.models.get? bound = some model) {later : List (Operation kit)}
    (hkept : ∀ step ∈ s.steps later, step.findsUnsuited = false) :
    (s.performAll later).backends.assembly = s.backends.assembly ∧
      (s.performAll later).workshop.models.get? bound =
        some (model.changedBy (Step.changesAlong bound (s.steps later) model)) := by
  induction later generalizing s model with
  | nil => exact ⟨rfl, hmodel⟩
  | cons operation rest ih =>
    obtain ⟨hfirst, hrest⟩ := List.forall_mem_cons.mp hkept
    let first : Step kit := ⟨s, operation⟩
    have hbefore : first.before.Sound problem := hsound
    obtain ⟨hassembly, hchanged⟩ := Step.get?_after_of_kept hbefore hfirst hbound hmodel
    have hbound' : (s.perform operation).1.backends.bound? = some bound := by
      rw [Backends.bound?_eq] at hbound ⊢
      rw [← hbound]
      exact congrArg Assembly.bound? hassembly
    obtain ⟨hlast, hfinal⟩ := ih (hsound.perform operation) hbound' hchanged hrest
    refine ⟨hlast.trans hassembly, hfinal.trans ?_⟩
    rw [steps, Step.changesAlong, QuadraticModel.changedBy_append]

/-- In every reachable state in which trust-region backends are live, they and the target of the
interior-point backend have the handle of one model. However its handles are used from there on, as
long as these backends are kept: what the target shows presents the model after exactly the changes
that were made, and it is the coordinator's own model if the coordinator has the same handle. A call
of the trust-region strategy binds its backends to the coordinator's model, and runs them as if they
had it for themselves, each solve being one of the model after exactly the changes so far. -/
theorem target_shows_current_model (problem : Problem R) (options : OptionStore)
    (operations : List (Operation kit)) :
    let s := (new kit problem options).performAll operations
    (∀ tr ip bound, s.backends = .trustRegion tr ip bound →
      tr.subproblem = bound ∧ ip.target = .subproblem bound ∧
        ∃ model, s.workshop.models.get? bound = some model ∧
          ∀ later, (∀ step ∈ s.steps later, step.findsUnsuited = false) →
            let t := s.performAll later
            let current := model.changedBy (Step.changesAlong bound (s.steps later) model)
            t.backends.assembly = s.backends.assembly ∧
              t.workshop.models.get? bound = some current ∧
              (t.subproblem = some bound → t.model? = some current) ∧
              ∃ shown, t.workshop.lend ip.target = some shown ∧ shown.Presents current) ∧
      (∀ condition handle resolved, s.resolve = .ok (.trustRegion handle, resolved) →
        ∃ tr ip model,
          (resolved.handedOver (.trustRegion handle)).backends = .trustRegion tr ip handle ∧
          (s.backends.Suits (.trustRegion handle) → s.backends = .trustRegion tr ip handle) ∧
          (∀ before, s.workshop.models.get? handle = some before → before = model) ∧
          let run := kit.runDirectly condition model [] ip.backend
            (kit.runTrustRegion condition tr.backend)
          let s' := (s.optimize condition).1
          s'.subproblem = some handle ∧
            s'.backends = .trustRegion { tr with backend := run.backend }
              { ip with backend := run.inner } handle ∧
            s'.workshop.models.get? handle = some (model.changedBy run.changes) ∧
            (s.optimize condition).2 = run.outcome.mapError .backend) ∧
      ∀ model : QuadraticModel R kit.Curvature, model.toProblem.Presents model := by
  intro s
  have hsound : s.Sound problem := performAll_sound problem options operations
  refine ⟨?_, ?_, QuadraticModel.presents_toProblem⟩
  · intro tr ip bound hlive
    have hwired := hsound.wired
    rw [hlive] at hwired
    obtain ⟨htr, htarget⟩ : tr.subproblem = bound ∧ ip.target = .subproblem bound := hwired
    have hbound : s.backends.bound? = some bound := by
      rw [hlive]
      rfl
    obtain ⟨model, hmodel⟩ := hsound.exists_bound hbound
    refine ⟨htr, htarget, model, hmodel, ?_⟩
    intro later hkept t current
    obtain ⟨hassembly, hcurrent⟩ := get?_performAll_of_kept hsound hbound hmodel hkept
    refine ⟨hassembly, hcurrent, fun hown => (model?_of_subproblem hown).trans hcurrent,
      current.toProblem, ?_, current.presents_toProblem⟩
    rw [htarget]
    exact congrArg (Option.map QuadraticModel.toProblem) hcurrent
  · intro condition handle resolved hresolve
    have hready := sound_handedOver hsound hresolve
    have hbound := resolved.bound?_handedOver (.trustRegion handle)
    obtain ⟨tr, ip, hlive⟩ := Backends.exists_of_bound? hbound
    obtain ⟨model, hmodel⟩ := hready.exists_bound hbound
    refine ⟨tr, ip, model, hlive, fun hsuits => ?_, fun before hbefore => ?_, ?_,
      optimize_eq_runDirectly hsound hresolve condition hlive hmodel⟩
    · exact (handedOver_of_suits hsound hresolve hsuits).1.symm.trans hlive
    · have hsame := get?_handedOver hsound hresolve rfl hbefore
      exact Option.some.inj (hsame.symm.trans hmodel)
    · exact (optimize_of_ok hresolve condition).subproblem.trans
        (subproblem_of_resolve hresolve handle rfl)

/-- With the standard solvers and the default options, a caller keeps a handle of the model after
the first call and sets its radius. The inner solver is shown the change, and the first call itself
ran its backends as if they had the model for themselves. -/
theorem standard_target_shows_model :
    let kit := ElementarySolvers.standard.kit
    let problem : Problem Binary64 := Problem.ofBounds [] 0
    let start := new kit problem (OptionStore.empty.addDefaults kit.registerOptions).1
    let s := start.performAll [.optimize none]
    let widen : ModelChange Binary64 := .setRadius (Binary64.ofInt 5)
    let later := [.hold "model", .changeHeld "model" widen]
    (∃ model shown, s.workshop.models.get? 0 = some model ∧
      (s.performAll later).workshop.lend (.subproblem 0) = some shown ∧
      shown.Presents (model.changedBy [widen])) ∧
    ∃ run : DirectRun kit, (start.optimize none).2 = run.outcome.mapError .backend := by
  intro kit problem start s widen later
  obtain ⟨-, hfirst, -⟩ :=
    target_shows_current_model problem start.options ([] : List (Operation kit))
  obtain ⟨hlive, -, -⟩ :=
    target_shows_current_model problem start.options ([.optimize none] : List (Operation kit))
  refine ⟨?_, ?_⟩
  · obtain ⟨tr, ip, hbackends⟩ := Backends.exists_of_bound? (rfl : s.backends.bound? = some 0)
    obtain ⟨-, htarget, model, hmodel, hlater⟩ := hlive tr ip 0 hbackends
    obtain ⟨-, -, -, shown, hshown, hpresents⟩ := hlater later (by decide)
    rw [htarget] at hshown
    exact ⟨model, shown, hmodel, hshown, hpresents⟩
  · obtain ⟨request, resolved, hresolve⟩ :=
      exists_resolve_of_not_refused (by decide : isRefusal (start.optimize none).2 = false)
    have hresolved := hresolve
    cases hresolved
    obtain ⟨tr, ip, model, -, -, -, -, -, -, hanswer⟩ := hfirst none 0 _ hresolve
    exact ⟨_, hanswer⟩

end Session

end StrategyCoordinator
