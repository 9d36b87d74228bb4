import Mathlib.Algebra.Order.Field.Basic
import Mathlib.Tactic.Ring
import Mathlib.Tactic.Linarith
import Mathlib.Tactic.FieldSimp

/-!
# Moving a share of one amount to another

Two pools hold amounts of an ordered field.  A positive share moves that part
of the second pool into the first one, and a negative share moves part of the
first pool into the second one.  The sum never changes.  A pool that receives
is multiplied by a factor, as is the pool that gives, and the factors stay the
same when both pools are scaled.
-/

namespace CocktailMaker

namespace Redistribution

variable {K : Type*} [Field K] [LinearOrder K]

/-- Two amounts between which a share can move. -/
structure Pools (K : Type*) where
  first : K
  second : K

namespace Pools

def total (pools : Pools K) : K :=
  pools.first + pools.second

/-- Multiply both amounts by the same number. -/
def scale (factor : K) (pools : Pools K) : Pools K :=
  ⟨factor * pools.first, factor * pools.second⟩

/-- Move a share of the giving pool to the other one. -/
def transfer (share : K) (pools : Pools K) : Pools K :=
  if 0 ≤ share then
    ⟨pools.first + share * pools.second, pools.second - share * pools.second⟩
  else
    ⟨pools.first + share * pools.first, pools.second - share * pools.first⟩

@[simp]
theorem total_transfer (share : K) (pools : Pools K) :
    (pools.transfer share).total = pools.total := by
  unfold transfer total
  split <;> ring

end Pools

/-- A factor for each pool. -/
structure Factors (K : Type*) where
  first : K
  second : K

/-- The factors that move a share: the receiving pool must not be empty. -/
def shareFactors (share : K) (pools : Pools K) : Factors K :=
  if 0 ≤ share then
    ⟨1 + share * pools.second / pools.first, 1 - share⟩
  else
    ⟨1 + share, 1 - share * pools.first / pools.second⟩

/-- The pool that a share moves into. -/
def receiving (share : K) (pools : Pools K) : K :=
  if 0 ≤ share then pools.first else pools.second

namespace Factors

def apply (factors : Factors K) (pools : Pools K) : Pools K :=
  ⟨pools.first * factors.first, pools.second * factors.second⟩

theorem apply_shareFactors {share : K} {pools : Pools K}
    (receives : receiving share pools ≠ 0) :
    (shareFactors share pools).apply pools = pools.transfer share := by
  unfold receiving at receives
  unfold shareFactors apply Pools.transfer
  split at receives
  case isTrue positive =>
    simp only [if_pos positive, Pools.mk.injEq]
    constructor
    · rw [mul_add, mul_one, mul_div_cancel₀ _ receives]
    · ring
  case isFalse negative =>
    simp only [if_neg negative, Pools.mk.injEq]
    constructor
    · ring
    · rw [mul_sub, mul_one, mul_div_cancel₀ _ receives]

end Factors

theorem receiving_scale (share factor : K) (pools : Pools K) :
    receiving share (pools.scale factor) = factor * receiving share pools := by
  unfold receiving Pools.scale
  split <;> rfl

/-- The factors depend only on the ratio of the pools. -/
theorem shareFactors_scale {factor : K} (nonzero : factor ≠ 0) (share : K)
    (pools : Pools K) :
    shareFactors share (pools.scale factor) = shareFactors share pools := by
  have ratio (dividend divisor : K) :
      share * (factor * dividend) / (factor * divisor) =
        share * dividend / divisor := by
    rw [mul_left_comm, mul_div_mul_left _ _ nonzero]
  unfold shareFactors Pools.scale
  simp only [ratio]

theorem shareFactors_nonneg [IsStrictOrderedRing K] {share : K}
    {pools : Pools K}
    (atMostOne : |share| ≤ 1) (firstNonneg : 0 ≤ pools.first)
    (secondNonneg : 0 ≤ pools.second) :
    0 ≤ (shareFactors share pools).first ∧
      0 ≤ (shareFactors share pools).second := by
  obtain ⟨lower, upper⟩ := abs_le.mp atMostOne
  unfold shareFactors
  split
  case isTrue positive =>
    have moved : 0 ≤ share * pools.second / pools.first :=
      div_nonneg (mul_nonneg positive secondNonneg) firstNonneg
    exact ⟨by linarith, by linarith⟩
  case isFalse negative =>
    have moved : 0 ≤ -share * pools.first / pools.second :=
      div_nonneg (mul_nonneg (by linarith) firstNonneg) secondNonneg
    rw [neg_mul, neg_div] at moved
    exact ⟨by linarith, by linarith⟩

section Monotonicity

@[simp]
theorem shareFactors_zero (pools : Pools K) :
    shareFactors 0 pools = ⟨1, 1⟩ := by
  simp [shareFactors]

variable [IsStrictOrderedRing K] {pools : Pools K}

theorem shareFactors_first_monotone (firstNonneg : 0 ≤ pools.first)
    (secondNonneg : 0 ≤ pools.second) :
    Monotone fun share => (shareFactors share pools).first := by
  have ratioNonneg : 0 ≤ pools.second / pools.first :=
    div_nonneg secondNonneg firstNonneg
  intro smaller larger ordered
  simp only [shareFactors, mul_div_assoc]
  by_cases smallerPositive : 0 ≤ smaller
  · have largerPositive : 0 ≤ larger := smallerPositive.trans ordered
    rw [if_pos smallerPositive, if_pos largerPositive]
    have := mul_le_mul_of_nonneg_right ordered ratioNonneg
    exact (add_le_add_iff_left 1).mpr this
  · rw [if_neg smallerPositive]
    by_cases largerPositive : 0 ≤ larger
    · rw [if_pos largerPositive]
      have moved := mul_nonneg largerPositive ratioNonneg
      linarith
    · rw [if_neg largerPositive]
      linarith

theorem shareFactors_second_antitone (firstNonneg : 0 ≤ pools.first)
    (secondNonneg : 0 ≤ pools.second) :
    Antitone fun share => (shareFactors share pools).second := by
  have ratioNonneg : 0 ≤ pools.first / pools.second :=
    div_nonneg firstNonneg secondNonneg
  intro smaller larger ordered
  simp only [shareFactors, mul_div_assoc]
  by_cases smallerPositive : 0 ≤ smaller
  · have largerPositive : 0 ≤ larger := smallerPositive.trans ordered
    rw [if_pos smallerPositive, if_pos largerPositive]
    linarith
  · rw [if_neg smallerPositive]
    by_cases largerPositive : 0 ≤ larger
    · rw [if_pos largerPositive]
      have moved := mul_nonneg (neg_nonneg.mpr (not_le.mp smallerPositive).le)
        ratioNonneg
      linarith
    · rw [if_neg largerPositive]
      have := mul_le_mul_of_nonneg_right ordered ratioNonneg
      linarith

theorem shareFactors_ne_one {share : K} (moves : share ≠ 0)
    (firstPositive : 0 < pools.first) (secondPositive : 0 < pools.second) :
    (shareFactors share pools).first ≠ 1 ∧
      (shareFactors share pools).second ≠ 1 := by
  unfold shareFactors
  split
  case isTrue positive =>
    have moved : share * pools.second / pools.first ≠ 0 :=
      div_ne_zero (mul_ne_zero moves secondPositive.ne') firstPositive.ne'
    exact ⟨add_ne_left.mpr moved, sub_eq_self.not.mpr moves⟩
  case isFalse negative =>
    have moved : share * pools.first / pools.second ≠ 0 :=
      div_ne_zero (mul_ne_zero moves firstPositive.ne') secondPositive.ne'
    exact ⟨add_ne_left.mpr moves, sub_eq_self.not.mpr moved⟩

end Monotonicity

end Redistribution

end CocktailMaker
