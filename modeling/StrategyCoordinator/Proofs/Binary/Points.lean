import StrategyCoordinator.Problem.Point
import StrategyCoordinator.Proofs.Binary.Options
import StrategyCoordinator.Strategy

/-!
# The bytes of strategies and points

Strategies, curvature approximations, vectors and points are read exactly. A vector has its length
in its bytes twice, and bytes in which the two disagree are those of no vector.
-/

namespace StrategyCoordinator

open Format

/-- The format of strategies is exact. -/
theorem Algorithm.binary_exact : Algorithm.binary.Exact := by
  refine exact_of_word rfl rfl (fun _ => trivial) (fun n b _ => ?_) fun b => ?_
  · match n with
    | 0 | 1 | 2 => cases b <;> simp [Algorithm.all, Algorithm.index]
    | n + 3 => cases b <;> simp [Algorithm.all, Algorithm.index]
  · cases b <;> decide

/-- The format of curvature approximations is exact. -/
theorem QuasiNewtonKind.binary_exact : QuasiNewtonKind.binary.Exact := by
  refine exact_of_word rfl rfl (fun _ => trivial) (fun n b _ => ?_) fun b => ?_
  · match n with
    | 0 | 1 => cases b <;> simp [QuasiNewtonKind.all, QuasiNewtonKind.index]
    | n + 2 => cases b <;> simp [QuasiNewtonKind.all, QuasiNewtonKind.index]
  · cases b <;> decide

/-- The format of vectors is exact. -/
theorem Vec.binary_exact : Vec.binary.Exact := by
  intro bytes value rest
  simp only [Vec.binary, Option.bind_eq_bind, Option.bind_eq_some_iff, Prod.exists,
    readWord_eq_some, Binary64.binary_exact.list _ _ _, Option.guard_eq_some', Option.pure_def,
    Option.some.injEq, Prod.mk.injEq]
  constructor
  · rintro ⟨version, after, ⟨-, rfl⟩, -, rfl, length, after', ⟨-, rfl⟩, v, after'',
      ⟨⟨hlt, -⟩, rfl⟩, -, rfl, rfl, rfl⟩
    exact ⟨hlt, by simp only [List.append_assoc]⟩
  · rintro ⟨hlt, rfl⟩
    have hfits : Binary64.binary.list.fits value := ⟨hlt, fun _ _ => trivial⟩
    simp only [List.append_assoc]
    exact ⟨formatVersion, _, ⟨by decide, rfl⟩, (), rfl, value.length, _, ⟨hlt, rfl⟩, value, rest,
      ⟨hfits, rfl⟩, (), rfl, rfl, rfl⟩

/-- The format of points is exact. -/
theorem OptimizedPoint.binary_exact : OptimizedPoint.binary.Exact :=
  (Vec.binary_exact.pair (Vec.binary_exact.pair (Vec.binary_exact.pair Vec.binary_exact))).via
    (fun _ => rfl) (fun _ => rfl)

end StrategyCoordinator
