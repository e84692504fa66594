import Mathlib.Tactic.FieldSimp
import Mathlib.Tactic.NormNum
import StrategyCoordinator.Proofs.Numeric.Value

/-!
# Rounding to the nearest number

Around a positive ratio the numbers are the multiples of one power of two, down to the binade that
holds the ratio; below it they lie more densely, but there none is nearer than the start of that
binade, which is such a multiple itself. So the multiple that is nearest to the ratio is a nearest
number, and if another number is as near, then both are multiples and the even one was taken.
-/

namespace StrategyCoordinator

/-- A ratio is rounded to one of its two integer neighbours, to one that is at most half away. -/
theorem roundHalfEven_cases (num den : Nat) :
    (roundHalfEven num den = num / den ∧ 2 * (num % den) ≤ den) ∨
      (roundHalfEven num den = num / den + 1 ∧ den ≤ 2 * (num % den)) := by
  unfold roundHalfEven
  dsimp only
  split
  · exact .inl ⟨rfl, by omega⟩
  · split
    · exact .inr ⟨rfl, by omega⟩
    · omega

/-- Rounding moves a ratio by what is missing to the nearer of its two integer neighbours. -/
theorem abs_roundHalfEven_sub (num : Nat) {den : Nat} (h : 0 < den) :
    |(roundHalfEven num den : ℚ) - num / den| =
      (min (num % den) (den - num % den) : Nat) / den := by
  have hden : (den : ℚ) ≠ 0 := by positivity
  have hratio : (num : ℚ) / den = (num / den : Nat) + (num % den : Nat) / den := by
    rw [add_div' _ _ _ hden, div_left_inj' hden]
    exact_mod_cast (Nat.div_add_mod' num den).symm
  have hrest := Nat.mod_lt num h
  rcases roundHalfEven_cases num den with ⟨hround, hhalf⟩ | ⟨hround, hhalf⟩
  · rw [min_eq_left (by omega), hround, hratio, sub_add_cancel_left, abs_neg, abs_of_nonneg]
    positivity
  · rw [min_eq_right (by omega), hround, hratio, Nat.cast_sub hrest.le, sub_div, div_self hden,
      Nat.cast_add_one, add_sub_add_left_eq_sub, abs_of_nonneg]
    rw [sub_nonneg, div_le_one (by positivity)]
    exact_mod_cast hrest.le

/-- Two integers are together at least one away from a ratio. -/
theorem one_le_abs_sub_add_abs_sub {a b : ℤ} (h : a ≠ b) (q : ℚ) :
    1 ≤ |(a : ℚ) - q| + |b - q| := by
  have hone : (1 : ℚ) ≤ |(a : ℚ) - b| := by
    exact_mod_cast Int.one_le_abs (sub_ne_zero.mpr h)
  rw [abs_sub_comm (b : ℚ) q]
  exact hone.trans (abs_sub_le (a : ℚ) q b)

/-- No integer is nearer to a ratio than the rounded one. -/
theorem roundHalfEven_nearest (num : Nat) {den : Nat} (h : 0 < den) (k : ℤ) :
    |(roundHalfEven num den : ℚ) - num / den| ≤ |(k : ℚ) - num / den| := by
  by_cases hk : (roundHalfEven num den : ℤ) = k
  · rw [← hk, Int.cast_natCast]
  · have hhalf : |(roundHalfEven num den : ℚ) - num / den| ≤ 1 / 2 := by
      rw [abs_roundHalfEven_sub num h, div_le_div_iff₀ (by positivity) two_pos]
      exact_mod_cast (by omega : min (num % den) (den - num % den) * 2 ≤ 1 * den)
    have hsum := one_le_abs_sub_add_abs_sub hk (num / den)
    rw [Int.cast_natCast] at hsum
    linarith

/-- If another integer is as near to a ratio, then the rounded one is even. -/
theorem roundHalfEven_even (num : Nat) {den : Nat} (h : 0 < den) {k : ℤ}
    (hne : (roundHalfEven num den : ℤ) ≠ k)
    (hnear : |(roundHalfEven num den : ℚ) - num / den| = |(k : ℚ) - num / den|) :
    roundHalfEven num den % 2 = 0 := by
  have hsum := one_le_abs_sub_add_abs_sub hne (num / den)
  rw [Int.cast_natCast, ← hnear, abs_roundHalfEven_sub num h, ← add_div,
    one_le_div (by positivity)] at hsum
  have htie : den ≤ min (num % den) (den - num % den) + min (num % den) (den - num % den) := by
    exact_mod_cast hsum
  unfold roundHalfEven
  dsimp only
  split
  · omega
  · split <;> omega

/-- A ratio below an integer is rounded to at most that integer. -/
theorem roundHalfEven_le {num den k : Nat} (h : num < k * den) : roundHalfEven num den ≤ k := by
  have hfloor : num / den < k := Nat.div_lt_of_lt_mul (Nat.mul_comm k den ▸ h)
  rcases roundHalfEven_cases num den with ⟨hround, -⟩ | ⟨hround, -⟩ <;> omega

/-- A ratio that is at least an integer is rounded to at least that integer. -/
theorem le_roundHalfEven {num den k : Nat} (h : k * den ≤ num) (hden : 0 < den) :
    k ≤ roundHalfEven num den := by
  have hfloor : k ≤ num / den := (Nat.le_div_iff_mul_le hden).mpr h
  rcases roundHalfEven_cases num den with ⟨hround, -⟩ | ⟨hround, -⟩ <;> omega

namespace Binary64

/-- Scaling down by a power of two divides a ratio by it. -/
theorem scaleDown_ratio (num den : Nat) (power : Int) :
    ((scaleDown num den power).1 : ℚ) / (scaleDown num den power).2 = num / den / 2 ^ power := by
  have hpower : (2 : ℚ) ^ power = 2 ^ power.toNat / 2 ^ (-power).toNat := by
    rw [← zpow_natCast, ← zpow_natCast, ← zpow_sub₀ two_ne_zero]
    congr 1
    omega
  simp only [scaleDown, Nat.pow_eq]
  rw [hpower]
  push_cast
  field_simp

/-- Scaling down keeps a denominator positive. -/
theorem scaleDown_pos (num : Nat) {den : Nat} (h : 0 < den) (power : Int) :
    0 < (scaleDown num den power).2 :=
  Nat.mul_pos h (Nat.two_pow_pos power.toNat)

/-- The logarithm of a positive integer gives the greatest power of two that is not above it. -/
theorem two_zpow_log2 {n : Nat} (h : 0 < n) :
    (2 : ℚ) ^ (n.log2 : Int) ≤ n ∧ (n : ℚ) < 2 ^ (n.log2 + 1 : Int) := by
  constructor
  · rw [zpow_natCast]
    exact_mod_cast Nat.log2_self_le h.ne'
  · exact_mod_cast Nat.lt_log2_self

/-- The scaled ratio is at least one if the power of two is not above the ratio. -/
theorem scaleDown_le_iff (num : Nat) {den : Nat} (h : 0 < den) (power : Int) :
    (scaleDown num den power).2 ≤ (scaleDown num den power).1 ↔
      (2 : ℚ) ^ power ≤ num / den := by
  have hden : (0 : ℚ) < (scaleDown num den power).2 := by exact_mod_cast scaleDown_pos num h power
  rw [← one_le_div (by positivity : (0 : ℚ) < 2 ^ power), ← scaleDown_ratio, one_le_div hden,
    Nat.cast_le]

/-- A positive ratio is between the power of two of its order and the next one. -/
theorem two_zpow_binaryOrder {num den : Nat} (hnum : 0 < num) (hden : 0 < den) :
    (2 : ℚ) ^ binaryOrder num den ≤ num / den ∧
      (num / den : ℚ) < 2 ^ (binaryOrder num den + 1) := by
  obtain ⟨hnum₁, hnum₂⟩ := two_zpow_log2 hnum
  obtain ⟨hden₁, hden₂⟩ := two_zpow_log2 hden
  have hden₀ : (0 : ℚ) < den := by exact_mod_cast hden
  have hlower : (2 : ℚ) ^ ((num.log2 : Int) - den.log2 - 1) ≤ num / den := by
    rw [sub_sub, zpow_sub₀ two_ne_zero]
    gcongr
  have hupper : (num / den : ℚ) < 2 ^ ((num.log2 : Int) - den.log2 + 1) := by
    rw [sub_add_eq_add_sub, zpow_sub₀ two_ne_zero]
    gcongr
  have hguess := scaleDown_le_iff num hden ((num.log2 : Int) - den.log2)
  unfold binaryOrder
  dsimp only
  split
  next hle => exact ⟨hguess.mp hle, hupper⟩
  next hlt =>
    rw [sub_add_cancel]
    exact ⟨hlower, not_le.mp (mt hguess.mpr hlt)⟩

/-- The power of two whose multiples a positive ratio is rounded to. -/
def nearestPower (num den : Nat) : Int :=
  max (binaryOrder num den - 52) (-1074)

/-- The multiple of that power that a positive ratio is rounded to. -/
def nearestSignificand (num den : Nat) : Nat :=
  roundHalfEven (scaleDown num den (nearestPower num den)).1
    (scaleDown num den (nearestPower num den)).2

/-- The magnitude bits of the number nearest to a positive ratio hold that multiple, unless it is
beyond the finite numbers. -/
theorem nearestMagnitude_eq {num : Nat} (h : 0 < num) (den : Nat) : nearestMagnitude num den =
    min (packed (nearestSignificand num den) (nearestPower num den)) infinityMagnitude := by
  rw [nearestMagnitude, if_neg h.ne']
  rfl

/-- A positive ratio is below the significands that are too long at the power it is rounded at, and
only at the lowest power it may be below the normal ones. -/
theorem nearestPower_bounds {num den : Nat} (hnum : 0 < num) (hden : 0 < den) :
    (num / den : ℚ) < (2 * leadingBit : Nat) * 2 ^ nearestPower num den ∧
      (nearestPower num den = -1074 ∨
        leadingBit * 2 ^ nearestPower num den ≤ (num / den : ℚ)) := by
  obtain ⟨hlower, hupper⟩ := two_zpow_binaryOrder hnum hden
  have hleading (power : Int) : (leadingBit : ℚ) * 2 ^ power = 2 ^ (power + 52) := by
    rw [zpow_add₀ two_ne_zero, mul_comm]
    norm_num [leadingBit]
  rw [Nat.cast_mul, mul_assoc, hleading]
  constructor
  · refine hupper.trans_le ?_
    rw [Nat.cast_ofNat, ← two_zpow_succ]
    exact zpow_le_zpow_right₀ one_le_two (by unfold nearestPower; omega)
  · rcases max_choice (binaryOrder num den - 52) (-1074) with hpower | hpower
    · right
      rw [nearestPower, hpower, sub_add_cancel]
      exact hlower
    · exact .inl hpower

/-- The multiple that a positive ratio is rounded to has the form in which a number holds it. -/
theorem normal_nearest {num den : Nat} (hnum : 0 < num) (hden : 0 < den) :
    Normal (nearestSignificand num den) (nearestPower num den) := by
  have hpower : (0 : ℚ) < 2 ^ nearestPower num den := by positivity
  have hscaled : (0 : ℚ) < (scaleDown num den (nearestPower num den)).2 := by
    exact_mod_cast scaleDown_pos num hden _
  obtain ⟨hupper, hlower⟩ := nearestPower_bounds hnum hden
  rw [← div_lt_iff₀ hpower, ← scaleDown_ratio, div_lt_iff₀ hscaled] at hupper
  rw [← le_div_iff₀ hpower, ← scaleDown_ratio, le_div_iff₀ hscaled] at hlower
  refine ⟨roundHalfEven_le (by exact_mod_cast hupper), le_max_right _ _, ?_⟩
  exact hlower.imp_right fun h => le_roundHalfEven (by exact_mod_cast h) (scaleDown_pos num hden _)

/-- A rational that is a multiple of a power of two, or that is nearer to zero than the normal
significands at that power. -/
def OnGrid (power : Int) (v : ℚ) : Prop :=
  (∃ k : ℤ, v = k * 2 ^ power) ∨ (power ≠ -1074 ∧ |v| < leadingBit * 2 ^ power)

/-- The grid has both signs. -/
theorem OnGrid.withSign {power : Int} {v : ℚ} (h : OnGrid power v) (negative : Bool) :
    OnGrid power (withSign negative v) := by
  cases negative with
  | false => exact h
  | true =>
    rcases h with ⟨k, rfl⟩ | ⟨hpower, hv⟩
    · exact .inl ⟨-k, by rw [Int.cast_neg, neg_mul]; rfl⟩
    · exact .inr ⟨hpower, (abs_neg v).trans_lt hv⟩

/-- All numbers are on the grid of each power. -/
theorem toRat_onGrid (x : Binary64) (power : Int) : OnGrid power x.toRat := by
  rcases le_or_gt power x.exponent with hle | hlt
  · have habs : x.absRat = (x.significand * 2 ^ (x.exponent - power).toNat : ℤ) * 2 ^ power := by
      push_cast
      rw [absRat, mul_assoc, ← zpow_natCast, ← zpow_add₀ two_ne_zero]
      congr 2
      omega
    exact OnGrid.withSign (.inl ⟨_, habs⟩) x.isNegative
  · refine .inr ⟨(x.normal.lowest.trans_lt hlt).ne', ?_⟩
    rw [abs_toRat]
    exact absRat_lt_leading hlt

/-- Distances from multiples of a positive number are multiples of distances. -/
theorem abs_mul_sub_eq (w q : ℚ) {c : ℚ} (h : 0 < c) : |w * c - q| = |w - q / c| * c := by
  calc |w * c - q| = |(w - q / c) * c| := by rw [sub_mul, div_mul_cancel₀ q h.ne']
    _ = |w - q / c| * c := by rw [abs_mul, abs_of_pos h]

/-- Nothing on the grid is nearer to a positive ratio than the multiple it is rounded to, and if
something else is as near, then that multiple is even. -/
theorem nearest_onGrid {num den : Nat} (hnum : 0 < num) (hden : 0 < den) {v : ℚ}
    (hv : OnGrid (nearestPower num den) v) :
    let nearest : ℚ := nearestSignificand num den * 2 ^ nearestPower num den
    |nearest - num / den| ≤ |v - num / den| ∧
      (nearest ≠ v → |nearest - num / den| = |v - num / den| →
        nearestSignificand num den % 2 = 0) := by
  intro nearest
  have hpower : (0 : ℚ) < 2 ^ nearestPower num den := by positivity
  have hscaled := scaleDown_pos num hden (nearestPower num den)
  have hmultiple (k : ℤ) :
      |nearest - num / den| ≤ |k * 2 ^ nearestPower num den - (num / den : ℚ)| := by
    rw [abs_mul_sub_eq _ _ hpower, abs_mul_sub_eq _ _ hpower, ← scaleDown_ratio]
    exact mul_le_mul_of_nonneg_right (roundHalfEven_nearest _ hscaled k) hpower.le
  rcases hv with ⟨k, rfl⟩ | ⟨hlowest, hbelow⟩
  · refine ⟨hmultiple k, fun hne hnear => ?_⟩
    rw [abs_mul_sub_eq _ _ hpower, abs_mul_sub_eq _ _ hpower, ← scaleDown_ratio,
      mul_left_inj' hpower.ne'] at hnear
    refine roundHalfEven_even _ hscaled (fun heq => hne ?_) hnear
    rw [← heq, Int.cast_natCast]
    rfl
  · -- The start of the binade is a multiple between anything below it and the ratio.
    have hratio := (nearestPower_bounds hnum hden).2.resolve_left hlowest
    have hstart := hmultiple leadingBit
    rw [Int.cast_natCast, abs_sub_comm _ (num / den : ℚ), abs_sub_comm _ (num / den : ℚ),
      abs_of_nonneg (sub_nonneg.mpr hratio)] at hstart
    have hv := (abs_lt.mp hbelow).2
    have hfurther : |nearest - num / den| < |v - num / den| := by
      rw [abs_sub_comm, abs_sub_comm v, abs_of_pos (sub_pos.mpr (hv.trans_le hratio))]
      exact hstart.trans_lt (sub_lt_sub_left hv _)
    exact ⟨hfurther.le, fun _ hnear => absurd hnear hfurther.ne⟩

/-- A finite number is a nearest one to a rational: none is nearer, and if another one is as near,
then the significand is even. -/
structure NearestTo (x : Binary64) (q : ℚ) : Prop where
  finite : x.IsFinite
  nearest : ∀ y : Binary64, y.IsFinite → |x.toRat - q| ≤ |y.toRat - q|
  even : ∀ y : Binary64, y.IsFinite → x.toRat ≠ y.toRat → |x.toRat - q| = |y.toRat - q| →
    x.significand % 2 = 0

/-- A number that stands for a rational is nearest to it. -/
theorem nearestTo_toRat {x : Binary64} (h : x.IsFinite) : x.NearestTo x.toRat := by
  refine ⟨h, fun y _ => ?_, fun y _ hne hnear => absurd ?_ hne⟩
  · rw [sub_self, abs_zero]
    exact abs_nonneg _
  · rw [sub_self, abs_zero, eq_comm, abs_eq_zero, sub_eq_zero] at hnear
    exact hnear.symm

/-- The number that a ratio is rounded to has the sign and the magnitude bits it is made from. -/
theorem ofRatio_bits (negative : Bool) {num den : Nat}
    (hfinite : nearestMagnitude num den < infinityMagnitude) :
    (ofRatio negative num den).isNegative = negative ∧
      (ofRatio negative num den).magnitude = nearestMagnitude num den := by
  have hsign : nearestMagnitude num den < signBit := hfinite.trans (by decide)
  exact ⟨isNegative_ofMagnitude negative hsign, magnitude_ofMagnitude negative hsign⟩

/-- A ratio is rounded to a number that is nearest to it, unless it is beyond the finite ones. -/
theorem ofRatio_nearestTo (negative : Bool) {num den : Nat} (hden : 0 < den)
    (hfinite : nearestMagnitude num den < infinityMagnitude) :
    (ofRatio negative num den).NearestTo (withSign negative (num / den)) := by
  obtain ⟨hsign, hmagnitude⟩ := ofRatio_bits negative hfinite
  generalize ofRatio negative num den = x at hsign hmagnitude
  have hx : x.IsFinite := by rwa [IsFinite, hmagnitude]
  rcases Nat.eq_zero_or_pos num with rfl | hnum
  · have hzero : x.toRat = withSign negative ((0 : Nat) / den) := by
      rw [toRat, absRat_eq_zero hmagnitude, hsign, Nat.cast_zero, zero_div]
    rw [← hzero]
    exact nearestTo_toRat hx
  · rw [nearestMagnitude_eq hnum, min_lt_iff, or_iff_left (lt_irrefl _)] at hfinite
    rw [nearestMagnitude_eq hnum, min_eq_left hfinite.le] at hmagnitude
    have hnormal := normal_nearest hnum hden
    have hrat : x.toRat =
        withSign negative (nearestSignificand num den * 2 ^ nearestPower num den) := by
      rw [toRat, hsign, absRat_of_magnitude hnormal hmagnitude]
    have hgrid (y : Binary64) :=
      nearest_onGrid hnum hden ((y.toRat_onGrid (nearestPower num den)).withSign negative)
    refine ⟨hx, fun y _ => ?_, fun y _ hne hnear => ?_⟩
    · rw [hrat, ← abs_withSign_sub, ← abs_withSign_sub, withSign_withSign]
      exact (hgrid y).1
    · rw [hrat, ← abs_withSign_sub, ← abs_withSign_sub, withSign_withSign] at hnear
      have heven := (hgrid y).2 (fun heq => hne (by rw [hrat, heq, withSign_withSign])) hnear
      rcases of_magnitude_eq_packed hnormal hmagnitude with ⟨hs, -⟩ | ⟨-, hs, -⟩
      · rw [hs, heven]
      · rw [hs, leadingBit]

/-- A ratio below half the range of the finite numbers is rounded to one of them. -/
theorem nearestMagnitude_lt {num den : Nat} (hden : 0 < den)
    (h : (num / den : ℚ) < 2 ^ (1023 : Int)) : nearestMagnitude num den < infinityMagnitude := by
  rcases Nat.eq_zero_or_pos num with rfl | hnum
  · exact of_decide_eq_true rfl
  · have horder : binaryOrder num den < 1023 :=
      (zpow_lt_zpow_iff_right₀ one_lt_two).mp ((two_zpow_binaryOrder hnum hden).1.trans_lt h)
    have hupper := (normal_nearest hnum hden).upper
    rw [nearestMagnitude_eq hnum, min_lt_iff]
    left
    unfold packed nearestPower leadingBit infinityMagnitude at *
    omega

/-- An integer is its distance from zero with its sign. -/
theorem withSign_natAbs (n : Int) : withSign (decide (n < 0)) n.natAbs = n := by
  rcases lt_or_ge n 0 with hneg | hnonneg
  · rw [decide_eq_true hneg, Nat.cast_natAbs, abs_of_neg hneg, Int.cast_neg]
    exact neg_neg _
  · rw [decide_eq_false hnonneg.not_gt, Nat.cast_natAbs, abs_of_nonneg hnonneg]
    rfl

/-- An integer that is less than `2 ^ 64` away from zero is rounded to a number that is nearest to
it. -/
theorem ofInt_nearestTo {n : Int} (h : n.natAbs < 2 ^ 64) : (ofInt n).NearestTo n := by
  have hsmall : (n.natAbs / (1 : Nat) : ℚ) < 2 ^ (1023 : Int) := by
    rw [Nat.cast_one, div_one]
    calc (n.natAbs : ℚ) < 2 ^ (64 : Int) := by exact_mod_cast h
      _ ≤ 2 ^ (1023 : Int) := zpow_le_zpow_right₀ one_le_two (by decide)
  have hnearest := ofRatio_nearestTo (decide (n < 0)) one_pos (nearestMagnitude_lt one_pos hsmall)
  rwa [Nat.cast_one, div_one, withSign_natAbs] at hnearest

/-- If a number stands for a rational, then so does each number that is nearest to it. -/
theorem NearestTo.toRat_eq {x : Binary64} {q : ℚ} (h : x.NearestTo q) {y : Binary64}
    (hy : y.IsFinite) (heq : y.toRat = q) : x.toRat = q := by
  have hnear := h.nearest y hy
  rw [heq, sub_self, abs_zero] at hnear
  exact sub_eq_zero.mp (abs_nonpos_iff.mp hnear)

/-- An integer that is at most `2 ^ 53` away from zero is rounded to itself. -/
theorem toRat_ofInt {n : Int} (h : n.natAbs ≤ 2 ^ 53) : (ofInt n).toRat = n := by
  obtain ⟨y, hy, hrat⟩ := exists_toRat_eq (decide (n < 0)) h 1074 (by decide)
  rw [Nat.cast_ofNat, sub_self, zpow_zero, mul_one, withSign_natAbs] at hrat
  exact (ofInt_nearestTo (h.trans_lt (by decide))).toRat_eq hy hrat

/-- A number that is not below a rational is not below a number that is nearest to it. -/
theorem NearestTo.le_of_le {x : Binary64} {q : ℚ} (h : x.NearestTo q) {y : Binary64}
    (hy : y.IsFinite) (hle : q ≤ y.toRat) : x.toRat ≤ y.toRat := by
  by_contra hlt
  have hnear := h.nearest y hy
  rw [abs_of_nonneg (sub_nonneg.mpr hle), abs_of_nonneg (by linarith)] at hnear
  linarith

/-- A number that is not above a rational is not above a number that is nearest to it. -/
theorem NearestTo.ge_of_ge {x : Binary64} {q : ℚ} (h : x.NearestTo q) {y : Binary64}
    (hy : y.IsFinite) (hle : y.toRat ≤ q) : y.toRat ≤ x.toRat := by
  by_contra hlt
  have hnear := h.nearest y hy
  rw [abs_of_nonpos (sub_nonpos.mpr hle), abs_of_nonpos (by linarith)] at hnear
  linarith

end Binary64

end StrategyCoordinator
