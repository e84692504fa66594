import StrategyCoordinator.Proofs.Model.Coherence

/-!
# The shapes in a model

The data at a center have the shapes that the evaluations of the problem gave them. If those are
the shapes of its variables and constraints, then every point of the right size is answered with
results of these shapes, and no two vectors of different lengths are ever combined: neither does
an operation find shapes that do not fit, nor is a vector of length one repeated to fit another.
A point of the wrong size is refused before anything is combined, and so is every point as long as
there is no center.
-/

namespace StrategyCoordinator

/-- Whether an evaluation reports its input as invalid. -/
def Evaluation.IsInvalidInput {α : Type} (e : Evaluation α) : Prop :=
  ∃ reason, e = .error (.reported (.invalidInput reason))

namespace ModelCenter

variable {R : Type}

/-- The data at a center have the shapes of `n` variables and `rows` constraints. -/
structure Shaped (center : ModelCenter R) (n rows : Nat) : Prop where
  x : center.x.length = n
  gradient : center.gradient.length = n
  constraints : center.constraints.length = rows
  columns : center.jacobian.columns = n
  rows : center.jacobian.rows.length = rows

/-- The step from a center to a point. -/
def stepTo [Sub R] (center : ModelCenter R) (x : Vec R) : Vec R :=
  x.zipWith (· - ·) center.x

/-- The step to a point of the right size is of that size too. -/
theorem stepTo_length [Sub R] {center : ModelCenter R} {x : Vec R}
    (h : x.length = center.x.length) : (center.stepTo x).length = center.x.length := by
  simp [stepTo, h]

end ModelCenter

namespace Problem

variable {R : Type}

/-- The gradient, the constraints and the Jacobian at a point, wherever they are found, have the
shapes of the variables and of `rows` constraints. -/
structure ShapedAt (p : Problem R) (rows : Nat) (x : Vec R) : Prop where
  gradient : ∀ g, p.gradient x = .ok g → g.length = p.variableCount
  constraints : ∀ c, p.constraints x = .ok c → c.length = rows
  jacobian : ∀ a, p.constraintJacobian x = .ok a →
    a.columns = p.variableCount ∧ a.rows.length = rows

/-- A problem of which only the objective and its gradient are given beside the bounds has no
constraints of another shape than it should. -/
theorem shapedAt_of_defaults [Scalar R] {bounds : List (Interval R)} {count : Nat}
    {objective : Vec R → Evaluation R} {gradient : Vec R → Evaluation (Vec R)} {x : Vec R}
    (h : ∀ g, gradient x = .ok g → g.length = bounds.length) :
    { ofBounds bounds count with objective, gradient }.ShapedAt count x := by
  refine ⟨h, ?_, ?_⟩
  · intro c hc
    by_cases hcount : count = 0
    · simp only [ofBounds, hcount, if_true] at hc
      cases hc
      exact hcount.symm
    · simp [ofBounds, hcount, Evaluation.report] at hc
  · intro a ha
    by_cases hcount : count = 0
    · simp only [ofBounds, hcount, if_true] at ha
      cases ha
      exact ⟨rfl, hcount.symm⟩
    · simp [ofBounds, hcount, Evaluation.report] at ha

/-- The data at a center have the shapes of the evaluations that gave them. -/
theorem HasValues.shaped {p : Problem R} {center : ModelCenter R} {rows : Nat}
    (h : p.HasValues center) (hshaped : p.ShapedAt rows center.x) :
    center.Shaped p.variableCount rows where
  x := h.size
  gradient := hshaped.gradient _ h.gradient
  constraints := hshaped.constraints _ h.constraints
  columns := (hshaped.jacobian _ h.jacobian).1
  rows := (hshaped.jacobian _ h.jacobian).2

end Problem

namespace QuadraticModel

variable {R Q : Type} [Scalar R] {m : QuadraticModel R Q} {center : ModelCenter R} {x : Vec R}

/-- A point of the right size is a step away from the center. -/
theorem step_eq_ok (hcenter : m.center = some center) (hx : x.length = center.x.length) :
    m.step x = .ok (center, center.stepTo x) := by
  rw [step, hcenter]
  exact if_pos hx

/-- Without a center, or at a point of the wrong size, there is no step. -/
theorem step_eq_error (h : ∀ center, m.center = some center → x.length ≠ center.x.length) :
    ∃ reason, m.step x = .error (.reported (.invalidInput reason)) := by
  unfold step
  split
  next => exact ⟨_, rfl⟩
  next center hcenter =>
    rw [if_neg (h center hcenter)]
    exact ⟨_, rfl⟩

variable [QuasiNewton R Q]

/-- What is combined in the evaluations at a point has the same length. -/
structure Fits (m : QuadraticModel R Q) (center : ModelCenter R) (x : Vec R) : Prop where
  /-- The point and the center, whose difference is the step. -/
  step : x.length = center.x.length
  /-- The gradient and the step. -/
  slope : center.gradient.length = (center.stepTo x).length
  /-- The step and its product with the approximation. -/
  bend : (center.stepTo x).length = (QuasiNewton.multiply m.curvature (center.stepTo x)).length
  /-- The gradient and its change over the step. -/
  gradient : center.gradient.length =
    (QuasiNewton.multiply m.curvature (center.stepTo x)).length
  /-- The columns of the Jacobian and the step. -/
  columns : center.jacobian.columns = (center.stepTo x).length
  /-- The constraint values and their change over the step. -/
  constraints : center.constraints.length = center.jacobian.rows.length

/-- If the data at the center have their shapes and the approximation keeps the size of vectors,
what is combined at a point of the right size has the same length. -/
theorem fits_of_shaped {n rows : Nat} (hshaped : center.Shaped n rows)
    (hkeeps : ∀ v : Vec R, v.length = n → (QuasiNewton.multiply m.curvature v).length = n)
    (hx : x.length = n) : m.Fits center x := by
  have hcenter : x.length = center.x.length := hx.trans hshaped.x.symm
  have hstep : (center.stepTo x).length = n :=
    (ModelCenter.stepTo_length hcenter).trans hshaped.x
  have hproduct := hkeeps _ hstep
  exact ⟨hcenter, hshaped.gradient.trans hstep.symm, hstep.trans hproduct.symm,
    hshaped.gradient.trans hproduct.symm, hshaped.columns.trans hstep.symm,
    hshaped.constraints.trans hshaped.rows.symm⟩

section Values

variable (hcenter : m.center = some center) (hfits : m.Fits center x)

include hcenter hfits

/-- The objective at a point where everything fits. -/
theorem objective_eq_ok :
    m.objective x = .ok (center.objective +
      Vec.accumulateProducts 0 center.gradient (center.stepTo x) +
      Scalar.half * Vec.accumulateProducts 0 (center.stepTo x)
        (QuasiNewton.multiply m.curvature (center.stepTo x))) := by
  rw [objective, step_eq_ok hcenter hfits.step]
  simp only [bind, Except.bind, Vec.dot?_of_length_eq hfits.slope,
    Vec.dot?_of_length_eq hfits.bend]
  rfl

/-- The gradient at a point where everything fits. -/
theorem gradient_eq_ok :
    m.gradient x = .ok (center.gradient.zipWith (· + ·)
      (QuasiNewton.multiply m.curvature (center.stepTo x))) := by
  rw [gradient, step_eq_ok hcenter hfits.step]
  simp only [bind, Except.bind, Vec.add?, Vec.combine?_of_length_eq _ hfits.gradient]
  rfl

/-- The constraint values at a point where everything fits. -/
theorem constraints_eq_ok :
    m.constraints x = .ok (center.constraints.zipWith (· + ·)
      (center.jacobian.rows.map fun row =>
        Vec.accumulateProducts 0 row (center.stepTo x))) := by
  have hlength : center.constraints.length = (center.jacobian.rows.map fun row =>
      Vec.accumulateProducts 0 row (center.stepTo x)).length := by
    rw [List.length_map]
    exact hfits.constraints
  rw [constraints, step_eq_ok hcenter hfits.step]
  simp only [bind, Except.bind, Matrix.mulVec?, if_pos hfits.columns, Evaluation.ofShape,
    Vec.add?, Vec.combine?_of_length_eq _ hlength]

omit [QuasiNewton R Q] hfits in
/-- The Jacobian at a point of the right size. -/
theorem constraintJacobian_eq_ok (hx : x.length = center.x.length) :
    m.constraintJacobian x = .ok center.jacobian := by
  rw [constraintJacobian, step_eq_ok hcenter hx]
  rfl

end Values

/-- The evaluations at a point, with a number, `n` entries, `rows` entries and a matrix of as many
rows and columns. -/
structure Evaluates (m : QuadraticModel R Q) (x : Vec R) (n rows : Nat) : Prop where
  objective : ∃ value, m.objective x = .ok value
  gradient : ∃ g, m.gradient x = .ok g ∧ g.length = n
  constraints : ∃ c, m.constraints x = .ok c ∧ c.length = rows
  jacobian : ∃ a, m.constraintJacobian x = .ok a ∧ a.columns = n ∧ a.rows.length = rows

/-- The evaluations at a point report invalid input under a condition, and only then. -/
structure RefusesIff (m : QuadraticModel R Q) (x : Vec R) (condition : Prop) : Prop where
  objective : (m.objective x).IsInvalidInput ↔ condition
  gradient : (m.gradient x).IsInvalidInput ↔ condition
  constraints : (m.constraints x).IsInvalidInput ↔ condition
  jacobian : (m.constraintJacobian x).IsInvalidInput ↔ condition

/-- Where everything fits, the evaluations have results of the shapes of the data. -/
theorem evaluates_of_fits {n rows : Nat} (hcenter : m.center = some center)
    (hshaped : center.Shaped n rows) (hfits : m.Fits center x) : m.Evaluates x n rows where
  objective := ⟨_, objective_eq_ok hcenter hfits⟩
  gradient := by
    refine ⟨_, gradient_eq_ok hcenter hfits, ?_⟩
    rw [List.length_zipWith, ← hfits.gradient, Nat.min_self]
    exact hshaped.gradient
  constraints := by
    refine ⟨_, constraints_eq_ok hcenter hfits, ?_⟩
    rw [List.length_zipWith, List.length_map, ← hfits.constraints, Nat.min_self]
    exact hshaped.constraints
  jacobian := ⟨_, constraintJacobian_eq_ok hcenter hfits.step, hshaped.columns, hshaped.rows⟩

/-- Evaluations that have results refuse nothing. -/
theorem Evaluates.refusesIff_false {n rows : Nat} (h : m.Evaluates x n rows) :
    m.RefusesIff x False := by
  obtain ⟨value, hobjective⟩ := h.objective
  obtain ⟨g, hgradient, -⟩ := h.gradient
  obtain ⟨c, hconstraints, -⟩ := h.constraints
  obtain ⟨a, hjacobian, -⟩ := h.jacobian
  constructor <;> simp [Evaluation.IsInvalidInput, *]

/-- Without a step to the point, the evaluations report invalid input. -/
theorem refusesIff_true (h : ∀ center, m.center = some center → x.length ≠ center.x.length) :
    m.RefusesIff x True := by
  obtain ⟨reason, hstep⟩ := step_eq_error h
  constructor <;>
    exact iff_true_intro ⟨reason, bind_eq_error.mpr (Or.inl hstep)⟩

open ModelChange

/-- Let the evaluations of a problem, wherever they succeed, have the shapes of its variables and of
`rows` constraints, and let the approximation keep the size of vectors. However a fresh model of the
problem is changed, it refuses a point as invalid input exactly if no move of the center has
succeeded yet or the point has the wrong size. At every other point the four evaluations succeed
with results of these shapes, and what is combined in them has the same length. -/
theorem shapes_never_clash (source : ProblemObject R) (curvature : Q) {rows : Nat}
    (hshaped : ∀ x : Vec R, x.length = source.problem.variableCount →
      source.problem.ShapedAt rows x)
    (changes : List (ModelChange R)) :
    let start : QuadraticModel R Q := new source curvature
    let m := start.changedBy changes
    let n := source.problem.variableCount
    let moves := (start.answers changes).filterMap acceptedCenter?
    (∀ v : Vec R, v.length = n → (QuasiNewton.multiply m.curvature v).length = n) →
      ∀ x : Vec R, m.RefusesIff x (moves = [] ∨ x.length ≠ n) ∧
        (moves ≠ [] → x.length = n → m.Evaluates x n rows ∧
          ∃ center, m.center = some center ∧ center.Shaped n rows ∧ m.Fits center x) := by
  intro start m n moves hkeeps x
  have hsource : m.source = source := source_changedBy start changes
  have hcoherent : m.Coherent := (coherent_new source curvature).changedBy changes
  have hmoves : m.center.map (·.x) = moves.getLast? :=
    (center_changedBy start changes).trans Option.or_none
  cases hcenter : m.center with
  | none =>
    have hnone : moves = [] := by
      rw [hcenter] at hmoves
      exact List.getLast?_eq_none_iff.mp hmoves.symm
    refine ⟨?_, fun hsome => absurd hnone hsome⟩
    rw [eq_true (Or.inl hnone : moves = [] ∨ x.length ≠ n)]
    exact refusesIff_true fun center hsome => by cases hcenter.symm.trans hsome
  | some center =>
    have hsome : moves ≠ [] := by
      rintro hnone
      rw [hcenter, hnone] at hmoves
      cases hmoves
    have hvalues : source.problem.HasValues center := hsource ▸ hcoherent center hcenter
    have hcenterShaped := hvalues.shaped (hshaped center.x hvalues.size)
    by_cases hx : x.length = n
    · have hfits := fits_of_shaped hcenterShaped hkeeps hx
      have hevaluates := evaluates_of_fits hcenter hcenterShaped hfits
      refine ⟨?_, fun _ _ => ⟨hevaluates, center, rfl, hcenterShaped, hfits⟩⟩
      rw [eq_false (by simp [hsome, hx] : ¬(moves = [] ∨ x.length ≠ n))]
      exact hevaluates.refusesIff_false
    · refine ⟨?_, fun _ h => absurd h hx⟩
      rw [eq_true (Or.inr hx : moves = [] ∨ x.length ≠ n)]
      refine refusesIff_true fun other hother => ?_
      obtain rfl : center = other := Option.some.inj (hcenter.symm.trans hother)
      rw [hvalues.size]
      exact hx

/-- A model of a problem in two variables that leaves out its constraints, moved to a point after a
refused move, refuses a point with one variable, although one entry could be repeated, and
evaluates a point with two. -/
theorem two_variables_evaluated :
    let bounds : List (Interval Binary64) := [⟨0, Binary64.ofInt 9⟩, ⟨0, Binary64.ofInt 9⟩]
    let problem : Problem Binary64 := { Problem.ofBounds bounds 0 with
      objective := fun x => .ok (Vec.accumulateProducts 0 x x)
      gradient := fun x => .ok (x.map (Binary64.ofInt 2 * ·)) }
    let start : QuadraticModel Binary64 ScaledIdentity :=
      new ⟨.optimized, problem⟩ ⟨.bfgs, 5, Binary64.ofInt 1, none⟩
    let moved := start.changedBy
      [.setCenter [0], .setCenter [0, Binary64.ofInt 3], .setRadius (Binary64.ofInt 1)]
    moved.center.map (·.x) = some [0, Binary64.ofInt 3] ∧
      (moved.gradient [0]).IsInvalidInput ∧
      moved.Evaluates [Binary64.ofInt 5, 0] 2 0 := by
  intro bounds problem start moved
  have hshaped : ∀ x : Vec Binary64, x.length = problem.variableCount → problem.ShapedAt 0 x := by
    intro x hx
    refine Problem.shapedAt_of_defaults fun g hg => ?_
    cases hg
    exact (List.length_map _).trans hx
  have hkeeps : ∀ v : Vec Binary64, v.length = problem.variableCount →
      (QuasiNewton.multiply moved.curvature v).length = problem.variableCount :=
    fun v hv => (List.length_map _).trans hv
  have hshapes := shapes_never_clash ⟨.optimized, problem⟩ _
    hshaped [.setCenter [0], .setCenter [0, Binary64.ofInt 3], .setRadius (Binary64.ofInt 1)] hkeeps
  obtain ⟨hrefuses, -⟩ := hshapes [0]
  obtain ⟨-, hevaluates⟩ := hshapes [Binary64.ofInt 5, 0]
  exact ⟨rfl, hrefuses.gradient.mpr (Or.inr (by decide)),
    (hevaluates (List.cons_ne_nil _ _) rfl).1⟩

end QuadraticModel

end StrategyCoordinator
