import StrategyCoordinator.Model.Change
import StrategyCoordinator.Proofs.Fallible
import StrategyCoordinator.Solvers.ScaledIdentity
import StrategyCoordinator.Solvers.SeparableProblem

/-!
# The data of a model at its center

Moving the center takes four evaluations, and each of them can fail. The new center is put in place
after the last of them, so a model never has the values of two points, and an attempt that fails
leaves no trace: the model is as if it had not been made. The center is therefore the point of the
last attempt that succeeded, and the data are the four values of the problem there.
-/

namespace StrategyCoordinator

namespace Problem

variable {R : Type}

/-- The data at a center are the values of the problem there. -/
structure HasValues (p : Problem R) (center : ModelCenter R) : Prop where
  size : center.x.length = p.variableCount
  objective : p.objective center.x = .ok center.objective
  gradient : p.gradient center.x = .ok center.gradient
  constraints : p.constraints center.x = .ok center.constraints
  jacobian : p.constraintJacobian center.x = .ok center.jacobian

/-- A failure of one of the four evaluations at a point, where those before it succeed. -/
inductive FirstFailure (p : Problem R) (x : Vec R) (failure : EvaluationFailure) : Prop
  | objective (h : p.objective x = .error failure)
  | gradient {objective : R} (hobjective : p.objective x = .ok objective)
      (h : p.gradient x = .error failure)
  | constraints {objective : R} {gradient : Vec R} (hobjective : p.objective x = .ok objective)
      (hgradient : p.gradient x = .ok gradient) (h : p.constraints x = .error failure)
  | jacobian {objective : R} {gradient constraints : Vec R}
      (hobjective : p.objective x = .ok objective) (hgradient : p.gradient x = .ok gradient)
      (hconstraints : p.constraints x = .ok constraints)
      (h : p.constraintJacobian x = .error failure)

variable {p : Problem R} {x : Vec R}

/-- All four evaluations at a point succeed exactly if they give the data of a center there. -/
theorem evaluateAt_eq_ok {center : ModelCenter R} (hsize : x.length = p.variableCount) :
    p.evaluateAt x = .ok center ↔ center.x = x ∧ p.HasValues center := by
  simp only [evaluateAt, bind_eq_ok]
  constructor
  · rintro ⟨objective, hobjective, gradient, hgradient, constraints, hconstraints, jacobian,
      hjacobian, heq⟩
    cases heq
    exact ⟨rfl, hsize, hobjective, hgradient, hconstraints, hjacobian⟩
  · rintro ⟨rfl, -, hobjective, hgradient, hconstraints, hjacobian⟩
    exact ⟨_, hobjective, _, hgradient, _, hconstraints, _, hjacobian, rfl⟩

/-- The evaluations at a point fail exactly with the first failure among them. -/
theorem evaluateAt_eq_error {failure : EvaluationFailure} :
    p.evaluateAt x = .error failure ↔ p.FirstFailure x failure := by
  simp only [evaluateAt, bind_eq_error]
  constructor
  · rintro (h | ⟨objective, hobjective, h | ⟨gradient, hgradient, h | ⟨constraints, hconstraints,
      h | ⟨jacobian, -, h⟩⟩⟩⟩)
    · exact .objective h
    · exact .gradient hobjective h
    · exact .constraints hobjective hgradient h
    · exact .jacobian hobjective hgradient hconstraints h
    · cases h
  · intro hfailure
    cases hfailure with
    | objective h => exact .inl h
    | gradient hobjective h => exact .inr ⟨_, hobjective, .inl h⟩
    | constraints hobjective hgradient h =>
      exact .inr ⟨_, hobjective, .inr ⟨_, hgradient, .inl h⟩⟩
    | jacobian hobjective hgradient hconstraints h =>
      exact .inr ⟨_, hobjective, .inr ⟨_, hgradient, .inr ⟨_, hconstraints, .inl h⟩⟩⟩

end Problem

namespace QuadraticModel

variable {R Q : Type}

/-- Moving the center succeeds exactly if there are data for the new one, which then are the only
thing that changes. -/
theorem setCenter_eq_ok {m moved : QuadraticModel R Q} {x : Vec R} :
    m.setCenter x = .ok moved ↔ ∃ center, center.x = x ∧ m.source.problem.HasValues center ∧
      moved = { m with center := some center } := by
  by_cases hsize : x.length = m.source.problem.variableCount
  · simp only [setCenter, hsize, ne_eq, not_true_eq_false, if_false, bind_eq_ok,
      Problem.evaluateAt_eq_ok hsize]
    constructor
    · rintro ⟨center, ⟨hx, hvalues⟩, heq⟩
      cases heq
      exact ⟨center, hx, hvalues, rfl⟩
    · rintro ⟨center, hx, hvalues, rfl⟩
      exact ⟨center, ⟨hx, hvalues⟩, rfl⟩
  · constructor
    · intro h
      simp [setCenter, hsize, Evaluation.report] at h
    · rintro ⟨center, rfl, hvalues, -⟩
      exact absurd hvalues.size hsize

/-- Moving the center fails exactly if the point has the wrong size, or else with the first failure
among the evaluations there. -/
theorem setCenter_eq_error {m : QuadraticModel R Q} {x : Vec R} {failure : EvaluationFailure} :
    m.setCenter x = .error failure ↔
      (x.length ≠ m.source.problem.variableCount ∧
        failure = .reported (.wrongSize m.source.problem.variableCount x.length)) ∨
      (x.length = m.source.problem.variableCount ∧ m.source.problem.FirstFailure x failure) := by
  by_cases hsize : x.length = m.source.problem.variableCount
  · simp [setCenter, hsize, bind_eq_error, Problem.evaluateAt_eq_error, pure, Except.pure]
  · simp [setCenter, hsize, Evaluation.report, eq_comm]

variable [QuasiNewton R Q]

/-- The model after changes that are made one after another. -/
def changedBy (model : QuadraticModel R Q) : List (ModelChange R) → QuadraticModel R Q
  | [] => model
  | change :: rest => (change.apply model).2.changedBy rest

/-- Changes can be made in two parts. -/
theorem changedBy_append (m : QuadraticModel R Q) (first second : List (ModelChange R)) :
    m.changedBy (first ++ second) = (m.changedBy first).changedBy second := by
  induction first generalizing m with
  | nil => rfl
  | cons change rest ih => exact ih (change.apply m).2

/-- One more change is made to what the changes before it have left. -/
theorem changedBy_concat (m : QuadraticModel R Q) (changes : List (ModelChange R))
    (change : ModelChange R) :
    m.changedBy (changes ++ [change]) = (change.apply (m.changedBy changes)).2 :=
  m.changedBy_append changes [change]

/-- Changes that are made one after another, each with its answer. -/
def answers (model : QuadraticModel R Q) :
    List (ModelChange R) → List (ModelChange R × Evaluation Bool)
  | [] => []
  | change :: rest => (change, (change.apply model).1) :: (change.apply model).2.answers rest

/-- The data at the center, if there is one, are the values of the problem there. -/
def Coherent (m : QuadraticModel R Q) : Prop :=
  ∀ center, m.center = some center → m.source.problem.HasValues center

end QuadraticModel

namespace ModelChange

variable {R Q : Type} [QuasiNewton R Q]

/-- The point that has become the center by a change, if the change is a move that succeeded. -/
def acceptedCenter? : ModelChange R × Evaluation Bool → Option (Vec R)
  | (.setCenter x, .ok _) => some x
  | _ => none

/-- The change, if it did not fail. -/
def succeeded? : ModelChange R × Evaluation Bool → Option (ModelChange R)
  | (change, .ok _) => some change
  | (_, .error _) => none

variable {change : ModelChange R} {m : QuadraticModel R Q}

/-- Moving the center puts the data of the new one in place, or else leaves the model. -/
theorem apply_setCenter (x : Vec R) (m : QuadraticModel R Q) :
    (∃ center, center.x = x ∧ m.source.problem.HasValues center ∧
      (setCenter x).apply m = (.ok true, { m with center := some center })) ∨
    ∃ failure, m.setCenter x = .error failure ∧ (setCenter x).apply m = (.error failure, m) := by
  cases hmoved : m.setCenter x with
  | ok moved =>
    obtain ⟨center, hx, hvalues, rfl⟩ := QuadraticModel.setCenter_eq_ok.mp hmoved
    exact .inl ⟨center, hx, hvalues, by simp [apply, hmoved]⟩
  | error failure => exact .inr ⟨failure, rfl, by simp [apply, hmoved]⟩

/-- A change leaves the problem of a model. -/
@[simp] theorem source_apply (change : ModelChange R) (m : QuadraticModel R Q) :
    (change.apply m).2.source = m.source := by
  cases change with
  | setCenter x =>
    rcases apply_setCenter x m with ⟨center, -, -, happly⟩ | ⟨failure, -, happly⟩ <;> rw [happly]
  | setRadius | updateCurvature => rfl

/-- A change keeps a model coherent. -/
theorem coherent_apply (h : m.Coherent) : (change.apply m).2.Coherent := by
  cases change with
  | setCenter x =>
    rcases apply_setCenter x m with ⟨center, -, hvalues, happly⟩ | ⟨failure, -, happly⟩
    · rw [happly]
      intro center' hcenter
      cases hcenter
      exact hvalues
    · rw [happly]
      exact h
  | setRadius | updateCurvature => exact h

/-- After a change the center is the point that it has made the center, or else the one before. -/
theorem center_apply (change : ModelChange R) (m : QuadraticModel R Q) :
    (change.apply m).2.center.map (·.x) =
      (acceptedCenter? (change, (change.apply m).1)).or (m.center.map (·.x)) := by
  cases change with
  | setCenter x =>
    rcases apply_setCenter x m with ⟨center, rfl, -, happly⟩ | ⟨failure, -, happly⟩ <;>
      simp [happly, acceptedCenter?]
  | setRadius | updateCurvature => simp [acceptedCenter?, apply, QuadraticModel.setRadius,
      QuadraticModel.updateCurvature]

/-- A change that fails leaves the model. -/
theorem apply_of_error {failure : EvaluationFailure} (h : (change.apply m).1 = .error failure) :
    (change.apply m).2 = m := by
  cases change with
  | setCenter x =>
    rcases apply_setCenter x m with ⟨center, -, -, happly⟩ | ⟨failure, -, happly⟩
    · rw [happly] at h
      cases h
    · rw [happly]
  | setRadius | updateCurvature => cases h

end ModelChange

namespace QuadraticModel

open ModelChange

variable {R Q : Type} [QuasiNewton R Q]

/-- Changes leave the problem of a model. -/
@[simp] theorem source_changedBy (m : QuadraticModel R Q) (changes : List (ModelChange R)) :
    (m.changedBy changes).source = m.source := by
  induction changes generalizing m with
  | nil => rfl
  | cons change rest ih => rw [changedBy, ih, source_apply]

/-- Changes keep a model coherent. -/
theorem Coherent.changedBy {m : QuadraticModel R Q} (h : m.Coherent)
    (changes : List (ModelChange R)) : (m.changedBy changes).Coherent := by
  induction changes generalizing m with
  | nil => exact h
  | cons change rest ih => exact ih (coherent_apply h)

/-- After changes the center is the last point that they have made the center, or else the one
before them. -/
theorem center_changedBy (m : QuadraticModel R Q) (changes : List (ModelChange R)) :
    (m.changedBy changes).center.map (·.x) =
      ((m.answers changes).filterMap acceptedCenter?).getLast?.or (m.center.map (·.x)) := by
  induction changes generalizing m with
  | nil => rfl
  | cons change rest ih =>
    rw [changedBy, ih, center_apply, answers, List.filterMap_cons]
    cases acceptedCenter? (change, (change.apply m).1) with
    | none => rfl
    | some x => simp [List.getLast?_cons, Option.or_some]

/-- Changes of which those that fail are left out make the same model, with the same answers. -/
theorem changedBy_succeeded (m : QuadraticModel R Q) (changes : List (ModelChange R)) :
    m.changedBy ((m.answers changes).filterMap succeeded?) = m.changedBy changes := by
  induction changes generalizing m with
  | nil => rfl
  | cons change rest ih =>
    rw [changedBy, answers, List.filterMap_cons]
    cases hanswer : (change.apply m).1 with
    | error failure =>
      have hsame : (change.apply m).2 = m := apply_of_error hanswer
      simpa [succeeded?, hsame] using ih m
    | ok used => exact ih (change.apply m).2

variable [Scalar R]

omit [QuasiNewton R Q] in
/-- A fresh model is coherent. -/
theorem coherent_new (source : ProblemObject R) (curvature : Q) :
    (new source curvature : QuadraticModel R Q).Coherent :=
  fun _ hcenter => nomatch hcenter

/-- However a fresh model is changed, its center is the point of the last move that succeeded, and
the data there are the four values of the problem at that point. A move fails if the point has the
wrong size, or else with the first failure among the four evaluations. It then leaves the model, so
that all that comes later is as without it; a move that succeeds changes the center with its data,
a new radius the radius, and a pair the curvature approximation, and nothing else. -/
theorem data_of_last_move (source : ProblemObject R) (curvature : Q)
    (changes : List (ModelChange R)) :
    let start : QuadraticModel R Q := new source curvature
    let m := start.changedBy changes
    (m.source = source ∧
      m.center.map (·.x) = ((start.answers changes).filterMap acceptedCenter?).getLast? ∧
      ∀ center, m.center = some center → source.problem.HasValues center) ∧
    (∀ x moved, m.setCenter x = .ok moved ↔ ∃ center, center.x = x ∧
      source.problem.HasValues center ∧ moved = { m with center := some center }) ∧
    (∀ x failure, m.setCenter x = .error failure ↔
      (x.length ≠ source.problem.variableCount ∧
        failure = .reported (.wrongSize source.problem.variableCount x.length)) ∨
      (x.length = source.problem.variableCount ∧ source.problem.FirstFailure x failure)) ∧
    (∀ x failure, m.setCenter x = .error failure →
      (ModelChange.setCenter x).apply m = (.error failure, m) ∧
        ∀ later, m.changedBy (.setCenter x :: later) = m.changedBy later ∧
          (m.changedBy (.setCenter x :: later)).toProblem = (m.changedBy later).toProblem) ∧
    start.changedBy ((start.answers changes).filterMap succeeded?) = m ∧
    (∀ radius, (ModelChange.setRadius radius).apply m = (.ok true, { m with radius })) ∧
    (∀ s y used approximation, QuasiNewton.update m.curvature s y = (used, approximation) →
      (ModelChange.updateCurvature s y).apply m =
        (.ok used, { m with curvature := approximation })) := by
  intro start m
  have hsource : m.source = source := source_changedBy start changes
  have hcoherent : start.Coherent := fun center hcenter => nomatch hcenter
  refine ⟨⟨hsource, ?_, ?_⟩, ?_, ?_, ?_, changedBy_succeeded start changes, fun _ => rfl, ?_⟩
  · rw [center_changedBy]
    exact Option.or_none
  · rw [← hsource]
    exact hcoherent.changedBy changes
  · intro x moved
    rw [← hsource]
    exact setCenter_eq_ok
  · intro x failure
    rw [← hsource]
    exact setCenter_eq_error
  · intro x failure hfailure
    have happly : (ModelChange.setCenter x).apply m = (.error failure, m) := by
      simp [ModelChange.apply, hfailure]
    have hlater (later : List (ModelChange R)) :
        m.changedBy (.setCenter x :: later) = m.changedBy later := by
      rw [changedBy, happly]
    exact ⟨happly, fun later => ⟨hlater later, congrArg toProblem (hlater later)⟩⟩
  · intro s y used approximation hupdate
    simp [ModelChange.apply, QuadraticModel.updateCurvature, hupdate]

/-- A model of a problem whose gradient fails far out stays where it is if it is moved there, or to
a point of the wrong size. -/
theorem failed_moves_leave_center :
    let data : SeparableProblem := ⟨[⟨0, Binary64.ofInt 9⟩], 0, none,
      some ⟨none, ⟨0, [], []⟩⟩,
      some ⟨some ⟨.gradientFailed, some (Binary64.ofInt 4)⟩, .constant [0]⟩, none, none⟩
    let source : ProblemObject Binary64 := ⟨.optimized, data.toProblem⟩
    let start : QuadraticModel Binary64 ScaledIdentity := new source ⟨.bfgs, 5, 0, none⟩
    let near : ModelChange Binary64 := .setCenter [Binary64.ofInt 3]
    let far : ModelChange Binary64 := .setCenter [Binary64.ofInt 5]
    let moved := start.changedBy [near, far, .setCenter []]
    moved.center.map (·.x) = some [Binary64.ofInt 3] ∧
      moved.setCenter [Binary64.ofInt 5] = .error (.reported .gradientFailed) ∧
      moved.changedBy [far, .setRadius 0] = moved.changedBy [.setRadius 0] ∧
      start.changedBy [near] = moved := by
  intro data source start near far moved
  obtain ⟨⟨-, hcenter, -⟩, -, hfails, hfailed, hsucceeded, -, -⟩ :=
    data_of_last_move source (⟨.bfgs, 5, 0, none⟩ : ScaledIdentity) [near, far, .setCenter []]
  have hbeyond : (Binary64.ofInt 4).numLt (Binary64.ofInt 5) = true := by decide +kernel
  have hgradient : source.problem.gradient [Binary64.ofInt 5] =
      .error (.reported .gradientFailed) := by
    simp [source, data, SeparableProblem.toProblem, SeparableProblem.evaluator,
      ProblemPart.evaluate, FailureRule.applies, Evaluation.report, hbeyond]
  have hfar : moved.setCenter [Binary64.ofInt 5] = .error (.reported .gradientFailed) :=
    (hfails _ _).mpr (.inr ⟨rfl, .gradient rfl hgradient⟩)
  exact ⟨hcenter.trans (by decide +kernel), hfar, ((hfailed _ _ hfar).2 [.setRadius 0]).1,
    hsucceeded⟩

end QuadraticModel

end StrategyCoordinator
