import Mathlib.Algebra.Field.Rat
import Mathlib.Algebra.Order.Ring.Rat
import Mathlib.Data.List.Forall2
import Mathlib.Tactic.Linarith
import StrategyCoordinator.Proofs.Model.Coherence
import StrategyCoordinator.Proofs.Model.Exact

/-!
# The box of a model

The bounds of a model with a center are the bounds of its problem, each row cut to the radius
around its element of the center. In exact arithmetic the points within them are those within the
problem's bounds and within the radius, also if the radius is negative or bounds are crossed, and
then there are none.
-/

namespace StrategyCoordinator

variable {K : Type} [Field K] [LinearOrder K]

/-- A number is within the bounds of a variable. -/
def Interval.Contains (i : Interval K) (y : K) : Prop :=
  i.lower ≤ y ∧ y ≤ i.upper

namespace Vec

/-- A point has one element for each row of the bounds, and each is within its row. -/
def Within (y : Vec K) (bounds : List (Interval K)) : Prop :=
  List.Forall₂ Interval.Contains bounds y

/-- A point has as many elements as the center, and each differs by at most the radius. -/
def Near (y : Vec K) (radius : K) (center : Vec K) : Prop :=
  List.Forall₂ (fun c yi => c - radius ≤ yi ∧ yi ≤ c + radius) center y

end Vec

namespace Interval

/-- A number is within the cut of an interval if it is within the interval and the radius. -/
theorem contains_clip (i : Interval K) (center radius y : K) :
    (i.clip center radius).Contains y ↔
      i.Contains y ∧ center - radius ≤ y ∧ y ≤ center + radius := by
  simp only [Contains, clip, max_le_iff, le_min_iff, and_and_and_comm]

variable [IsStrictOrderedRing K]

/-- The middle of an interval is within it exactly if its bounds are not crossed. -/
theorem contains_midpoint (i : Interval K) : i.Contains i.midpoint ↔ i.lower ≤ i.upper := by
  change i.lower ≤ 1 / 2 * (i.lower + i.upper) ∧ 1 / 2 * (i.lower + i.upper) ≤ i.upper ↔ _
  constructor
  · rintro ⟨hlower, hupper⟩
    exact hlower.trans hupper
  · intro h
    constructor <;> linarith

end Interval

namespace Vec

variable [IsStrictOrderedRing K]

/-- What is near stays near if the radius grows. -/
theorem Near.mono {y center : Vec K} {radius larger : K} (h : y.Near radius center)
    (hradius : radius ≤ larger) : y.Near larger center := by
  refine List.Forall₂.imp (fun c yi hnear => ?_) h
  constructor
  · exact (sub_le_sub_left hradius c).trans hnear.1
  · exact hnear.2.trans (add_le_add_right hradius c)

/-- A center with an element is near itself exactly if the radius is not negative. -/
theorem near_self {center : Vec K} {radius : K} (h : 0 < center.length) :
    center.Near radius center ↔ 0 ≤ radius := by
  rw [Near, List.forall₂_same]
  constructor
  · intro hnear
    obtain ⟨c, hc⟩ := List.exists_mem_of_length_pos h
    exact (le_add_iff_nonneg_right c).mp (hnear c hc).2
  · intro hradius c _
    exact ⟨sub_le_self c hradius, le_add_of_nonneg_right hradius⟩

/-- The middles of bounds are within them exactly if no row is crossed. -/
theorem within_midpoints (bounds : List (Interval K)) :
    Within (bounds.map Interval.midpoint) bounds ↔ ∀ row ∈ bounds, row.lower ≤ row.upper := by
  rw [Within, List.forall₂_map_right_iff, List.forall₂_same]
  exact forall₂_congr fun row _ => row.contains_midpoint

end Vec

/-- A point is within bounds that are cut to the radius around a center exactly if it is within the
bounds and near the center. -/
theorem within_clipBounds {bounds : List (Interval K)} {center : Vec K} (radius : K)
    (h : bounds.length = center.length) (y : Vec K) :
    y.Within (clipBounds radius bounds center) ↔ y.Within bounds ∧ y.Near radius center := by
  induction bounds generalizing center y with
  | nil =>
    obtain rfl := List.length_eq_zero_iff.mp h.symm
    simp [clipBounds, Vec.Within, Vec.Near]
  | cons row rows ih =>
    cases center with
    | nil => cases h
    | cons c center =>
      cases y with
      | nil => simp [clipBounds, Vec.Within, Vec.Near]
      | cons yi y =>
        have hrest := ih (Nat.succ.inj h) y
        simp only [Vec.Within, Vec.Near] at hrest
        simp only [clipBounds, Vec.Within, Vec.Near, List.forall₂_cons, hrest,
          Interval.contains_clip]
        exact and_and_and_comm

namespace QuadraticModel

variable [IsStrictOrderedRing K] {Q : Type} [QuasiNewton K Q]

/-- However a fresh model of a problem is changed and whatever its radius is set to, its bounds are
an exact intersection once it has a center, given a row of bounds for each variable: a point is
within them exactly if it is within the problem's bounds and near the center. So they lie within the
problem's bounds and grow with the radius, and the starting point, which is the center, is within
them exactly if the radius is not negative and the center is within the problem's bounds. Without a
center the bounds and the starting point are those of the problem; if that point is the middle of
the bounds, then it is within them exactly if no row is crossed. -/
theorem bounds_are_intersection (source : ProblemObject K) (curvature : Q)
    (changes : List (ModelChange K)) :
    let start : QuadraticModel K Q := new source curvature
    let m := start.changedBy changes
    let p := source.problem
    (∀ center radius, m.center = some center → p.bounds.length = p.variableCount →
      let sized := m.setRadius radius
      (∀ y : Vec K, y.Within sized.bounds ↔ y.Within p.bounds ∧ y.Near radius center.x) ∧
      (∀ y : Vec K, y.Within sized.bounds → y.Within p.bounds) ∧
      (∀ larger, radius ≤ larger → ∀ y : Vec K, y.Within sized.bounds →
        y.Within (m.setRadius larger).bounds) ∧
      sized.initialPoint = center.x ∧
      (0 < p.variableCount → (sized.initialPoint.Within sized.bounds ↔
        0 ≤ radius ∧ center.x.Within p.bounds))) ∧
    (m.center = none →
      m.bounds = p.bounds ∧ m.initialPoint = p.initialPoint ∧
      ∀ count, p.initialPoint = (Problem.ofBounds p.bounds count).initialPoint →
        (m.initialPoint.Within m.bounds ↔ ∀ row ∈ p.bounds, row.lower ≤ row.upper)) := by
  intro start m p
  have hsource : m.source.problem = p := congrArg (·.problem) (source_changedBy start changes)
  have hcoherent : m.Coherent := (coherent_new source curvature).changedBy changes
  constructor
  · intro center radius hcenter hrows sized
    have hsize : center.x.length = p.variableCount := by
      rw [(hcoherent center hcenter).size, hsource]
    have hbounds (r : K) (y : Vec K) :
        y.Within (m.setRadius r).bounds ↔ y.Within p.bounds ∧ y.Near r center.x := by
      simp only [bounds, setRadius, hcenter, hsource]
      exact within_clipBounds r (hrows.trans hsize.symm) y
    have hinitial : sized.initialPoint = center.x := by
      simp only [sized, initialPoint, setRadius, hcenter]
    refine ⟨hbounds radius, fun y hy => ((hbounds radius y).mp hy).1, ?_, hinitial, ?_⟩
    · intro larger hradius y hy
      obtain ⟨hwithin, hnear⟩ := (hbounds radius y).mp hy
      exact (hbounds larger y).mpr ⟨hwithin, hnear.mono hradius⟩
    · intro hpos
      rw [hinitial, hbounds radius, Vec.near_self (hsize ▸ hpos), and_comm]
  · intro hcenter
    have hbounds : m.bounds = p.bounds := by simp only [bounds, hcenter, hsource]
    have hinitial : m.initialPoint = p.initialPoint := by
      simp only [initialPoint, hcenter, hsource]
    refine ⟨hbounds, hinitial, fun count hdefault => ?_⟩
    rw [hbounds, hinitial, hdefault]
    exact Vec.within_midpoints p.bounds

/-- A model of a problem in two variables starts in the middle of its bounds. Moved to a point near
one of them, its box ends at that bound on one side and at the radius on the others, and for a
negative radius it does not hold even its center. -/
theorem box_near_a_bound :
    let problem : Problem ℚ := { Problem.ofBounds [⟨0, 9⟩, ⟨0, 9⟩] 0 with
      objective := fun x => .ok (x.inner x)
      gradient := fun x => .ok (x.map (2 * ·)) }
    let start : QuadraticModel ℚ (IdentityMultiple ℚ) := new ⟨.optimized, problem⟩ ⟨1⟩
    let m := start.changedBy [.setCenter [1, 5], .setRadius 2]
    start.initialPoint.Within start.bounds ∧ Vec.Within [0, 7] m.bounds ∧
      ¬ Vec.Within [-1, 7] m.bounds ∧ ¬ Vec.Within [3, 8] m.bounds ∧
      Vec.Within [0, 7] (m.setRadius 3).bounds ∧ m.initialPoint.Within m.bounds ∧
      ¬ (m.setRadius (-1)).initialPoint.Within (m.setRadius (-1)).bounds := by
  intro problem start m
  obtain ⟨-, hfresh⟩ := bounds_are_intersection ⟨.optimized, problem⟩ (⟨1⟩ : IdentityMultiple ℚ) []
  obtain ⟨hmoved, -⟩ := bounds_are_intersection ⟨.optimized, problem⟩ (⟨1⟩ : IdentityMultiple ℚ)
    [.setCenter [1, 5], .setRadius 2]
  obtain ⟨-, -, hdefault⟩ := hfresh rfl
  obtain ⟨hwithin, -, hgrows, -, hinitial⟩ := hmoved _ 2 rfl rfl
  obtain ⟨-, -, -, -, hnegative⟩ := hmoved _ (-1) rfl rfl
  have hcenter : Vec.Within [1, 5] problem.bounds := by
    norm_num [Vec.Within, Interval.Contains, problem, Problem.ofBounds]
  have hcorner : Vec.Within [0, 7] m.bounds := by
    refine (hwithin _).mpr ⟨?_, ?_⟩
    · norm_num [Vec.Within, Interval.Contains, problem, Problem.ofBounds]
    · change Vec.Near [0, 7] 2 [1, 5]
      norm_num [Vec.Near]
  have hrows : ∀ row ∈ problem.bounds, row.lower ≤ row.upper := by
    norm_num [problem, Problem.ofBounds]
  refine ⟨(hdefault 0 rfl).mpr hrows, hcorner, ?_, ?_, hgrows 3 (by norm_num) _ hcorner,
    (hinitial (by decide)).mpr ⟨by norm_num, hcenter⟩, ?_⟩
  · intro h
    have hbelow := ((hwithin _).mp h).1
    norm_num [Vec.Within, Interval.Contains, problem, Problem.ofBounds] at hbelow
  · intro h
    have hfar : Vec.Near [(3 : ℚ), 8] 2 [1, 5] := ((hwithin _).mp h).2
    norm_num [Vec.Near] at hfar
  · intro h
    have hradius := ((hnegative (by decide)).mp h).1
    norm_num at hradius

end QuadraticModel

end StrategyCoordinator
