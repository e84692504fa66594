import Mathlib.Algebra.Field.Rat
import Mathlib.Algebra.Order.Ring.Rat
import StrategyCoordinator.Proofs.Model.Exact
import StrategyCoordinator.Proofs.Model.Shapes

/-!
# The expansion of a model

In exact arithmetic a model with a self-adjoint approximation is one quadratic function with its
derivatives, although its four evaluations are written separately: from every point the objective
is expanded by the gradient there and the approximation, the constraints by their Jacobian. At the
center the model has the values of its problem.
-/

namespace StrategyCoordinator

variable {K : Type} [Field K]

namespace Vec

/-- A map of the vectors of length `n` to themselves that is additive and its own adjoint. -/
structure SelfAdjoint (n : Nat) (b : Vec K → Vec K) : Prop where
  keeps : ∀ v : Vec K, v.length = n → (b v).length = n
  additive : ∀ u v : Vec K, u.length = n → v.length = n → b (u.plus v) = (b u).plus (b v)
  adjoint : ∀ u v : Vec K, u.length = n → v.length = n → inner u (b v) = inner (b u) v

namespace SelfAdjoint

variable {n : Nat} {b : Vec K → Vec K}

/-- The product of a sum of two vectors with its image. -/
theorem inner_plus_self (h : SelfAdjoint n b) {u v : Vec K} (hu : u.length = n)
    (hv : v.length = n) :
    inner (u.plus v) (b (u.plus v)) = inner u (b u) + 2 * inner (b u) v + inner v (b v) := by
  have hlength : u.length = v.length := hu.trans hv.symm
  have hproduct : (b u).length = (b v).length := (h.keeps u hu).trans (h.keeps v hv).symm
  rw [h.additive u v hu hv, plus_inner hlength, inner_plus hproduct, inner_plus hproduct,
    h.adjoint u v hu hv, inner_comm v (b u)]
  ring

/-- The image of the zero vector is zero. -/
theorem map_zeros (h : SelfAdjoint n b) : b (zeros n) = zeros n := by
  have hlength : (zeros n : Vec K).length = n := zeros_length n
  have hzeros : plus (zeros n) (zeros n : Vec K) = zeros n := by
    rw [plus, zeros, List.zipWith_replicate', add_zero]
  have hdouble : b (zeros n) = (b (zeros n)).plus (b (zeros n)) := by
    rw [← h.additive _ _ hlength hlength, hzeros]
  rw [eq_zeros_of_eq_plus hdouble, h.keeps _ hlength]

end SelfAdjoint

end Vec

namespace ModelCenter

variable [LinearOrder K] (center : ModelCenter K)

/-- The step to a point moved by a vector is moved by it too. -/
theorem stepTo_plus (x h : Vec K) : center.stepTo (x.plus h) = (center.stepTo x).plus h := by
  apply List.ext_getElem
  · simp only [stepTo, Vec.plus, List.length_zipWith]
    omega
  · intro i _ _
    simp only [stepTo, Vec.plus, List.getElem_zipWith]
    exact add_sub_right_comm _ _ _

/-- There is no step to the center itself. -/
theorem stepTo_self : center.stepTo center.x = Vec.zeros center.x.length := by
  simp only [stepTo, Vec.zeros, List.zipWith_self, sub_self, List.map_const']

end ModelCenter

namespace QuadraticModel

variable [LinearOrder K] {Q : Type} [QuasiNewton K Q] {m : QuadraticModel K Q}
  {center : ModelCenter K}

section Values

variable {x : Vec K} (hcenter : m.center = some center) (hfits : m.Fits center x)

include hcenter hfits

/-- The objective is quadratic in the step. -/
theorem objective_eq_quadratic :
    m.objective x = .ok (center.objective + center.gradient.inner (center.stepTo x) +
      1 / 2 * (center.stepTo x).inner (QuasiNewton.multiply m.curvature (center.stepTo x))) := by
  rw [objective_eq_ok hcenter hfits, Vec.accumulateProducts_eq, Vec.accumulateProducts_eq]
  simp only [zero_add]
  rfl

/-- The constraints are linear in the step. -/
theorem constraints_eq_linear :
    m.constraints x = .ok (center.constraints.plus (center.jacobian.times (center.stepTo x))) := by
  rw [constraints_eq_ok hcenter hfits]
  simp only [Vec.accumulateProducts_eq, zero_add]
  rfl

end Values

/-- The values at a point moved by `h` are expanded from the values and derivatives at the point:
the objective with the gradient and half the product of `h` with the approximation, the constraints
with the Jacobian. -/
structure ExpandsFrom (m : QuadraticModel K Q) (x h : Vec K) : Prop where
  objective : ∃ value gradient, m.objective x = .ok value ∧ m.gradient x = .ok gradient ∧
    gradient.length = h.length ∧
    m.objective (x.plus h) = .ok (value + gradient.inner h +
      1 / 2 * h.inner (QuasiNewton.multiply m.curvature h))
  constraints : ∃ values jacobian, m.constraints x = .ok values ∧
    m.constraintJacobian x = .ok jacobian ∧ jacobian.columns = h.length ∧
    values.length = jacobian.rows.length ∧
    m.constraints (x.plus h) = .ok (values.plus (jacobian.times h))

/-- A model is the expansion of a problem around a center if it has the values of the problem there
and expands from every point. -/
structure IsExpansion (m : QuadraticModel K Q) (p : Problem K) (center : ModelCenter K) :
    Prop where
  problem : p.HasValues center
  model : m.toProblem.HasValues center
  expands : ∀ x h : Vec K, x.length = p.variableCount → h.length = p.variableCount →
    m.ExpandsFrom x h

section Shaped

variable {rows : Nat} (hcenter : m.center = some center)
  (hshaped : center.Shaped m.source.problem.variableCount rows)
  (hcurvature : Vec.SelfAdjoint m.source.problem.variableCount
    (QuasiNewton.multiply m.curvature))

include hcenter hshaped hcurvature

/-- The model has the data of its center as values there. -/
theorem toProblem_hasValues : m.toProblem.HasValues center := by
  have hfits : m.Fits center center.x := fits_of_shaped hshaped hcurvature.keeps hshaped.x
  have hstep : center.stepTo center.x = Vec.zeros m.source.problem.variableCount := by
    rw [ModelCenter.stepTo_self, hshaped.x]
  constructor
  · exact hshaped.x
  · change m.objective center.x = _
    rw [objective_eq_quadratic hcenter hfits, hstep, hcurvature.map_zeros]
    simp only [Vec.inner_zeros, mul_zero, add_zero]
  · change m.gradient center.x = _
    rw [gradient_eq_ok hcenter hfits, hstep, hcurvature.map_zeros, ← hshaped.gradient]
    exact congrArg Except.ok (Vec.plus_zeros _)
  · change m.constraints center.x = _
    rw [constraints_eq_linear hcenter hfits, hstep, Matrix.times_zeros, hshaped.rows,
      ← hshaped.constraints, Vec.plus_zeros]
  · exact constraintJacobian_eq_ok hcenter rfl

/-- The model expands from every point. -/
theorem expandsFrom [IsStrictOrderedRing K] {x h : Vec K}
    (hx : x.length = m.source.problem.variableCount)
    (hh : h.length = m.source.problem.variableCount) : m.ExpandsFrom x h := by
  have hfits : m.Fits center x := fits_of_shaped hshaped hcurvature.keeps hx
  have hmoved : m.Fits center (x.plus h) :=
    fits_of_shaped hshaped hcurvature.keeps (by simp [hx, hh])
  have hstep : (center.stepTo x).length = m.source.problem.variableCount :=
    (ModelCenter.stepTo_length hfits.step).trans hshaped.x
  have hsize : (center.stepTo x).length = h.length := hstep.trans hh.symm
  constructor
  · refine ⟨_, _, objective_eq_quadratic hcenter hfits, gradient_eq_ok hcenter hfits, ?_, ?_⟩
    · rw [List.length_zipWith, ← hfits.gradient, Nat.min_self, hshaped.gradient, hh]
    · have hgradient := Vec.plus_inner hfits.gradient h
      rw [objective_eq_quadratic hcenter hmoved, ModelCenter.stepTo_plus, Vec.inner_plus hsize,
        hcurvature.inner_plus_self hstep hh]
      -- Half of the doubled mixed term is what the gradient at `x` has over the one at the center.
      refine congrArg Except.ok ?_
      change _ = _ + Vec.inner (Vec.plus _ _) h + _
      rw [hgradient]
      ring
  · refine ⟨_, _, constraints_eq_linear hcenter hfits,
      constraintJacobian_eq_ok hcenter hfits.step, hfits.columns.trans hsize, ?_, ?_⟩
    · rw [List.length_zipWith, Matrix.times_length, hfits.constraints, Nat.min_self]
    · rw [constraints_eq_linear hcenter hmoved, ModelCenter.stepTo_plus, Matrix.times_plus _ hsize,
        Vec.plus_assoc]

/-- A coherent model is the expansion of its problem around its center. -/
theorem Coherent.isExpansion [IsStrictOrderedRing K] (h : m.Coherent) :
    m.IsExpansion m.source.problem center where
  problem := h center hcenter
  model := toProblem_hasValues hcenter hshaped hcurvature
  expands _ _ hx hh := expandsFrom hcenter hshaped hcurvature hx hh

end Shaped

/-- However a fresh model of a problem is changed, if the data at its center have the shapes of the
variables and of some number of constraints and its approximation is self-adjoint, then it is the
expansion of the problem around the center. It still is after a pair, if the new approximation is
self-adjoint, and after a move that succeeds, then around the new center. -/
theorem expands_around_center [IsStrictOrderedRing K] (source : ProblemObject K) (curvature : Q)
    (changes : List (ModelChange K)) :
    let start : QuadraticModel K Q := new source curvature
    let m := start.changedBy changes
    let p := source.problem
    (∀ center rows, m.center = some center → center.Shaped p.variableCount rows →
      (Vec.SelfAdjoint p.variableCount (QuasiNewton.multiply m.curvature) →
        m.IsExpansion p center) ∧
      ∀ s y, Vec.SelfAdjoint p.variableCount
          (QuasiNewton.multiply (m.updateCurvature s y).2.curvature) →
        (m.updateCurvature s y).2.IsExpansion p center) ∧
    ∀ x moved, m.setCenter x = .ok moved → ∃ center, moved.center = some center ∧
      center.x = x ∧ ∀ rows, center.Shaped p.variableCount rows →
        Vec.SelfAdjoint p.variableCount (QuasiNewton.multiply m.curvature) →
          moved.IsExpansion p center := by
  intro start m p
  have hsource : p = m.source.problem := congrArg (·.problem) (source_changedBy start changes).symm
  have hcoherent : m.Coherent := (coherent_new source curvature).changedBy changes
  rw [hsource]
  refine ⟨fun center rows hcenter hshaped => ⟨?_, fun s y => ?_⟩, fun x moved hmoved => ?_⟩
  · intro hcurvature
    exact hcoherent.isExpansion hcenter hshaped hcurvature
  · intro hcurvature
    have hupdated : (m.updateCurvature s y).2.Coherent := hcoherent
    exact hupdated.isExpansion hcenter hshaped hcurvature
  · obtain ⟨center, hx, hvalues, rfl⟩ := setCenter_eq_ok.mp hmoved
    refine ⟨center, rfl, hx, fun rows hshaped hcurvature => ?_⟩
    have hmoved : ({ m with center := some center } : QuadraticModel K Q).Coherent := by
      intro other hother
      cases hother
      exact hvalues
    exact hmoved.isExpansion rfl hshaped hcurvature

end QuadraticModel

/-- A multiple of the identity is self-adjoint on vectors of every length. -/
theorem IdentityMultiple.selfAdjoint [LinearOrder K] (b : IdentityMultiple K) (n : Nat) :
    Vec.SelfAdjoint n (QuasiNewton.multiply b) := by
  constructor
  · intro v hv
    exact (List.length_map _).trans hv
  · intro u v _ _
    change (u.plus v).map (b.factor * ·) = Vec.plus (u.map (b.factor * ·)) (v.map (b.factor * ·))
    simp only [Vec.plus, List.map_zipWith, List.zipWith_map, mul_add]
  · intro u v _ _
    change Vec.inner u (v.map (b.factor * ·)) = Vec.inner (u.map (b.factor * ·)) v
    simp only [Vec.inner, List.zipWith_map_left, List.zipWith_map_right, mul_left_comm, mul_assoc]

/-- A model of the squared distance from zero with the constraint that the variables add up to one
at least, in rational arithmetic, is its expansion around the first center, after a pair, and
around the second center. -/
theorem QuadraticModel.squared_distance_expands :
    let problem : Problem ℚ := { Problem.ofBounds [⟨0, 9⟩, ⟨0, 9⟩] 1 with
      objective := fun x => .ok (x.inner x)
      gradient := fun x => .ok (x.map (2 * ·))
      constraints := fun x => .ok [x.sum - 1]
      constraintJacobian := fun _ => .ok ⟨2, [[1, 1]], by simp⟩ }
    let start : QuadraticModel ℚ (IdentityMultiple ℚ) := new ⟨.optimized, problem⟩ ⟨1⟩
    let m := start.changedBy [.setCenter [1, 2], .setRadius 5]
    let updated := (m.updateCurvature [1, 1] [2, 2]).2
    ∃ center moved next, m.center = some center ∧ center.x = [1, 2] ∧
      m.IsExpansion problem center ∧ updated.curvature.factor = 2 ∧
      updated.IsExpansion problem center ∧
      m.setCenter [3, 4] = .ok moved ∧ moved.center = some next ∧
      moved.IsExpansion problem next := by
  intro problem start m updated
  obtain ⟨hexpansion, hmoves⟩ := expands_around_center ⟨.optimized, problem⟩
    (⟨1⟩ : IdentityMultiple ℚ) [.setCenter [1, 2], .setRadius 5]
  obtain ⟨hfirst, hupdates⟩ := hexpansion _ 1 rfl ⟨rfl, rfl, rfl, rfl, rfl⟩
  have hmoved : m.setCenter [3, 4] = .ok { m with center := some ⟨[3, 4], _, _, _, _⟩ } := rfl
  obtain ⟨next, hnext, -, hexpands⟩ := hmoves _ _ hmoved
  have hpair : updated.curvature.factor = 2 := by
    change (if 0 < Vec.inner [1, 1] [(2 : ℚ), 2] then _ else (false, m.curvature)).2.factor = 2
    norm_num [Vec.inner]
  refine ⟨_, _, next, rfl, rfl, hfirst (m.curvature.selfAdjoint 2), hpair,
    hupdates _ _ (updated.curvature.selfAdjoint 2), hmoved, hnext, ?_⟩
  obtain rfl := Option.some.inj hnext
  exact hexpands 1 ⟨rfl, rfl, rfl, rfl, rfl⟩ (m.curvature.selfAdjoint 2)

end StrategyCoordinator
