import Mathlib.Algebra.Order.Field.Power
import Mathlib.Algebra.Order.Field.Rat
import Mathlib.Order.WithBot
import Mathlib.Tactic.Linarith
import Mathlib.Tactic.Positivity
import Mathlib.Tactic.Ring
import StrategyCoordinator.Numeric.Nearest

/-!
# Double-precision numbers as rationals

A finite number stands for a rational: its significand, scaled by a power of two, with its sign.
The magnitude bits consist of the power and the significand, so of two numbers of one sign the one
with more magnitude stands for the rational that is further from zero. Hence the order that is read
off the bits is the order of the rationals, with an infinity at each end.
-/

namespace StrategyCoordinator

/-- The rationals with an infinity at each end. -/
abbrev ExtendedRat := WithBot (WithTop ℚ)

/-- A rational among those with an infinity at each end. -/
def ExtendedRat.ofRat (q : ℚ) : ExtendedRat :=
  ((q : WithTop ℚ) : WithBot (WithTop ℚ))

namespace ExtendedRat

@[simp] theorem ofRat_le_ofRat {a b : ℚ} : ofRat a ≤ ofRat b ↔ a ≤ b := by
  simp [ofRat]

@[simp] theorem ofRat_ne_bot (q : ℚ) : ofRat q ≠ ⊥ :=
  WithBot.coe_ne_bot

@[simp] theorem ofRat_ne_top (q : ℚ) : ofRat q ≠ ⊤ := by
  simp [ofRat]

end ExtendedRat

/-- A rational with the sign it is given. -/
def withSign (negative : Bool) (q : ℚ) : ℚ :=
  if negative then -q else q

/-- Giving the same sign twice undoes it. -/
theorem withSign_withSign (negative : Bool) (q : ℚ) :
    withSign negative (withSign negative q) = q := by
  cases negative <;> simp [withSign]

/-- A sign does not change the distance from zero. -/
theorem abs_withSign (negative : Bool) (q : ℚ) : |withSign negative q| = |q| := by
  cases negative <;> simp [withSign]

/-- It does not matter which of two rationals is given a sign for their distance. -/
theorem abs_withSign_sub (negative : Bool) (a b : ℚ) :
    |withSign negative a - b| = |a - withSign negative b| := by
  cases negative with
  | false => rfl
  | true =>
    change |-a - b| = |a - -b|
    rw [← abs_neg, neg_sub', neg_neg]

namespace Binary64

/-- Whether a number is neither infinite nor a pattern that stands for no number. -/
def IsFinite (x : Binary64) : Prop :=
  x.magnitude < infinityMagnitude

/-- The distance of a finite number from zero. -/
def absRat (x : Binary64) : ℚ :=
  x.significand * 2 ^ x.exponent

/-- The rational that a finite number stands for. -/
def toRat (x : Binary64) : ℚ :=
  withSign x.isNegative x.absRat

/-- What a number stands for, given that it is one. -/
def extended (x : Binary64) : ExtendedRat :=
  if x.isInfinite then (if x.isNegative then ⊥ else ⊤) else .ofRat x.toRat

/-- The magnitude of a number made from a sign and a magnitude. -/
theorem magnitude_ofMagnitude (negative : Bool) {m : Nat} (h : m < signBit) :
    (ofMagnitude negative m).magnitude = m := by
  unfold signBit at h
  cases negative <;> simp [magnitude, ofMagnitude, signBit] <;> omega

/-- The sign of a number made from a sign and a magnitude. -/
theorem isNegative_ofMagnitude (negative : Bool) {m : Nat} (h : m < signBit) :
    (ofMagnitude negative m).isNegative = negative := by
  unfold signBit at h
  cases negative <;> simp [isNegative, ofMagnitude, signBit] <;> omega

/-- A significand and a power of two in the form in which a number holds them: the leading bit is
missing only at the lowest power. The significand may also be twice the leading bit, which is what
the longest one is rounded up to. -/
structure Normal (significand : Nat) (power : Int) : Prop where
  upper : significand ≤ 2 * leadingBit
  lowest : -1074 ≤ power
  leading : power = -1074 ∨ leadingBit ≤ significand

/-- The magnitude bits that hold a significand and a power of two. -/
def packed (significand : Nat) (power : Int) : Nat :=
  (power + 1074).toNat * leadingBit + significand

/-- The significand and the power of a number have the form in which it holds them. -/
theorem normal (x : Binary64) : Normal x.significand x.exponent := by
  unfold significand exponent
  split <;> constructor <;> unfold leadingBit at * <;> omega

/-- The significand of a number is less than twice the leading bit. -/
theorem significand_lt (x : Binary64) : x.significand < 2 * leadingBit := by
  unfold significand
  split <;> unfold leadingBit at * <;> omega

/-- The magnitude bits of a number are its power and its significand. -/
theorem magnitude_eq_packed (x : Binary64) : x.magnitude = packed x.significand x.exponent := by
  unfold packed significand exponent
  split <;> unfold leadingBit at * <;> omega

/-- The magnitude bits determine the significand and the power, except that a significand that was
rounded up to twice the leading bit is held as the leading bit at the next power. -/
theorem of_magnitude_eq_packed {x : Binary64} {significand : Nat} {power : Int}
    (h : Normal significand power) (hx : x.magnitude = packed significand power) :
    (x.significand = significand ∧ x.exponent = power) ∨
      (significand = 2 * leadingBit ∧ x.significand = leadingBit ∧ x.exponent = power + 1) := by
  obtain ⟨hupper, hlowest, hleading⟩ := h
  unfold packed at hx
  unfold Binary64.significand exponent
  split <;> unfold leadingBit at * <;> omega

/-- A power of two is twice the one before it. -/
theorem two_zpow_succ (power : Int) : (2 : ℚ) ^ (power + 1) = 2 * 2 ^ power := by
  rw [zpow_add_one₀ two_ne_zero, mul_comm]

/-- A number is as far from zero as the significand and the power that its magnitude bits hold. -/
theorem absRat_of_magnitude {x : Binary64} {significand : Nat} {power : Int}
    (h : Normal significand power) (hx : x.magnitude = packed significand power) :
    x.absRat = significand * 2 ^ power := by
  rcases of_magnitude_eq_packed h hx with ⟨hs, hp⟩ | ⟨hcarry, hs, hp⟩
  · rw [absRat, hs, hp]
  · rw [absRat, hs, hp, hcarry, two_zpow_succ]
    push_cast
    ring

/-- A significand and a power in the form in which numbers hold them belong to a finite number, of
each sign, unless the power is beyond that of the finite ones. -/
theorem Normal.exists_toRat_eq {significand : Nat} {power : Int} (h : Normal significand power)
    (hpower : power ≤ 970) (negative : Bool) :
    ∃ x : Binary64, x.IsFinite ∧ x.toRat = withSign negative (significand * 2 ^ power) := by
  have hfinite : packed significand power < infinityMagnitude := by
    have hupper := h.upper
    unfold packed leadingBit infinityMagnitude at *
    omega
  have hsign : packed significand power < signBit := hfinite.trans (by decide)
  have hmagnitude := magnitude_ofMagnitude negative hsign
  refine ⟨ofMagnitude negative (packed significand power), ?_, ?_⟩
  · rwa [IsFinite, hmagnitude]
  · rw [toRat, isNegative_ofMagnitude negative hsign, absRat_of_magnitude h hmagnitude]

/-- A significand that is not too long belongs to a finite number at each power of their range:
while the leading bit is missing it can be doubled at the power before. -/
theorem exists_toRat_eq (negative : Bool) {significand : Nat} (h : significand ≤ 2 * leadingBit)
    (steps : Nat) (hsteps : steps ≤ 2044) : ∃ x : Binary64, x.IsFinite ∧
      x.toRat = withSign negative (significand * 2 ^ ((steps : Int) - 1074)) := by
  induction steps generalizing significand with
  | zero =>
    have hnormal : Normal significand ((0 : Nat) - 1074) := ⟨h, le_rfl, .inl rfl⟩
    exact hnormal.exists_toRat_eq (by decide) negative
  | succ steps ih =>
    rcases le_or_gt leadingBit significand with hleading | hshort
    · have hnormal : Normal significand ((steps + 1 : Nat) - 1074) :=
        ⟨h, by omega, .inr hleading⟩
      exact hnormal.exists_toRat_eq (by omega) negative
    · obtain ⟨x, hx, hrat⟩ := ih (Nat.mul_le_mul_left 2 hshort.le) (by omega)
      refine ⟨x, hx, ?_⟩
      rw [hrat, Nat.cast_add_one, add_sub_right_comm, two_zpow_succ, Nat.cast_mul, mul_assoc,
        mul_left_comm, Nat.cast_ofNat]

/-- The distance from zero is not negative. -/
theorem absRat_nonneg (x : Binary64) : 0 ≤ x.absRat := by
  unfold absRat
  positivity

/-- The distance of a number's rational from zero. -/
theorem abs_toRat (x : Binary64) : |x.toRat| = x.absRat := by
  rw [toRat, abs_withSign, abs_of_nonneg x.absRat_nonneg]

/-- Numbers of the same magnitude are equally far from zero. -/
theorem absRat_congr {x y : Binary64} (h : x.magnitude = y.magnitude) : x.absRat = y.absRat := by
  simp only [absRat, significand, exponent, h]

/-- A number that is held at a lower power is nearer to zero than the leading bit at a power. -/
theorem absRat_lt_leading {x : Binary64} {power : Int} (h : x.exponent < power) :
    x.absRat < leadingBit * 2 ^ power := by
  have hsignificand := x.significand_lt
  have hnext : (2 : ℚ) ^ (x.exponent + 1) ≤ 2 ^ power := zpow_le_zpow_right₀ one_le_two h
  calc (x.significand : ℚ) * 2 ^ x.exponent
      < (2 * leadingBit : Nat) * 2 ^ x.exponent := by gcongr
    _ = leadingBit * 2 ^ (x.exponent + 1) := by rw [two_zpow_succ]; push_cast; ring
    _ ≤ leadingBit * 2 ^ power := by gcongr

/-- The number with more magnitude is further from zero. -/
theorem absRat_lt {x y : Binary64} (h : x.magnitude < y.magnitude) : x.absRat < y.absRat := by
  have hx := x.normal
  have hy := y.normal
  rw [magnitude_eq_packed, magnitude_eq_packed] at h
  rcases lt_trichotomy x.exponent y.exponent with hpower | hpower | hpower
  · have hleading : leadingBit ≤ y.significand :=
      hy.leading.resolve_left (hx.lowest.trans_lt hpower).ne'
    calc x.absRat < leadingBit * 2 ^ y.exponent := absRat_lt_leading hpower
      _ ≤ y.significand * 2 ^ y.exponent := by gcongr
  · unfold absRat
    rw [hpower] at h ⊢
    have hsignificand : x.significand < y.significand := Nat.lt_of_add_lt_add_left h
    gcongr
  · -- More magnitude at a lower power would need a significand beyond twice the leading bit.
    have hleading : leadingBit ≤ x.significand :=
      hx.leading.resolve_left (hy.lowest.trans_lt hpower).ne'
    have hlowest := hy.lowest
    have hupper := hy.upper
    simp only [packed, leadingBit] at h hleading hupper
    omega

/-- A number with magnitude does not stand for zero. -/
theorem absRat_pos {x : Binary64} (h : 0 < x.magnitude) : 0 < x.absRat := by
  have hzero : (0 : Binary64).magnitude < x.magnitude := h
  exact (absRat_nonneg 0).trans_lt (absRat_lt hzero)

/-- A number without magnitude stands for zero. -/
theorem absRat_eq_zero {x : Binary64} (h : x.magnitude = 0) : x.absRat = 0 := by
  rw [absRat, significand, h]
  simp [leadingBit]

/-- The order of the ranks is that of the rationals. -/
theorem toRat_lt {x y : Binary64} (h : x.rank < y.rank) : x.toRat < y.toRat := by
  unfold rank at h
  unfold toRat withSign
  split at h <;> split at h <;> simp only [*, if_true, if_false, Bool.false_eq_true]
  · exact neg_lt_neg (absRat_lt (by omega))
  · have hx := x.absRat_nonneg
    have hy := y.absRat_nonneg
    rcases Nat.eq_zero_or_pos x.magnitude with hzero | hpos
    · have := absRat_pos (x := y) (by omega)
      linarith
    · have := absRat_pos hpos
      linarith
  · omega
  · exact absRat_lt (by omega)

/-- Numbers of the same rank stand for the same rational. -/
theorem toRat_congr {x y : Binary64} (h : x.rank = y.rank) : x.toRat = y.toRat := by
  unfold rank at h
  unfold toRat withSign
  split at h <;> split at h <;> simp only [*, if_true, if_false, Bool.false_eq_true]
  · exact congrArg _ (absRat_congr (by omega))
  · rw [absRat_eq_zero (x := x) (by omega), absRat_eq_zero (x := y) (by omega), neg_zero]
  · rw [absRat_eq_zero (x := x) (by omega), absRat_eq_zero (x := y) (by omega), neg_zero]
  · exact absRat_congr (by omega)

/-- Numbers are ordered by their ranks as the rationals they stand for. -/
theorem toRat_le_iff {x y : Binary64} : x.toRat ≤ y.toRat ↔ x.rank ≤ y.rank := by
  constructor
  · intro h
    by_contra hlt
    exact h.not_gt (toRat_lt (not_le.mp hlt))
  · intro h
    rcases h.lt_or_eq with hlt | heq
    · exact (toRat_lt hlt).le
    · exact (toRat_congr heq).le

/-- A finite number stands for its rational. -/
theorem IsFinite.extended_eq {x : Binary64} (h : x.IsFinite) :
    x.extended = .ofRat x.toRat := by
  have hinfinite : x.isInfinite = false := by simpa [isInfinite] using h.ne
  rw [extended, hinfinite]
  rfl

/-- A finite number is a number. -/
theorem IsFinite.isNaN {x : Binary64} (h : x.IsFinite) : x.isNaN = false := by
  simpa [Binary64.isNaN] using h.le

/-- The rank of a finite number is between those of the infinities. -/
theorem IsFinite.rank_lt {x : Binary64} (h : x.IsFinite) :
    -(infinityMagnitude : Int) < x.rank ∧ x.rank < infinityMagnitude := by
  unfold IsFinite at h
  unfold rank
  split <;> omega

/-- A number is finite, or it is one of the infinities and stands at an end. -/
theorem finite_or_infinite {x : Binary64} (h : x.isNaN = false) : x.IsFinite ∨
    (x.extended = ⊥ ∧ x.rank = -infinityMagnitude) ∨
      (x.extended = ⊤ ∧ x.rank = infinityMagnitude) := by
  simp only [isNaN, decide_eq_false_iff_not, not_lt] at h
  rcases h.lt_or_eq with hlt | heq
  · exact .inl hlt
  · have hinfinite : x.isInfinite = true := by simpa [isInfinite] using heq
    cases hsign : x.isNegative with
    | true => exact .inr (.inl (by simp [extended, rank, hinfinite, hsign, heq]))
    | false => exact .inr (.inr (by simp [extended, rank, hinfinite, hsign, heq]))

/-- Numbers are ordered as what they stand for. -/
theorem numLe_iff {x y : Binary64} (hx : x.isNaN = false) (hy : y.isNaN = false) :
    x.numLe y = true ↔ x.extended ≤ y.extended := by
  -- Two finite numbers are compared as rationals; in all other cases the ends decide both sides.
  have hrank : x.numLe y = true ↔ x.rank ≤ y.rank := by simp [numLe, hx, hy]
  have hends : infinityMagnitude ≠ 0 := by decide
  rw [hrank]
  rcases finite_or_infinite hx with hfx | ⟨hex, hrx⟩ | ⟨hex, hrx⟩ <;>
    rcases finite_or_infinite hy with hfy | ⟨hey, hry⟩ | ⟨hey, hry⟩
  · rw [hfx.extended_eq, hfy.extended_eq, ExtendedRat.ofRat_le_ofRat, toRat_le_iff]
  · simp [hfx.extended_eq, hfx.rank_lt.1, hey, hry]
  · simp [hfx.rank_lt.2.le, hey, hry]
  · simp [hfy.rank_lt.1.le, hex, hrx]
  · simp [hex, hrx, hry]
  · simp [hex, hrx, hry]
  · simp [hfy.extended_eq, hfy.rank_lt.2, hex, hrx]
  · simp [hends, hex, hrx, hey, hry]
  · simp [hrx, hey, hry]

end Binary64

end StrategyCoordinator
