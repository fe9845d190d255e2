import Mathlib.Algebra.Order.ToIntervalMod
import Mathlib.Data.Rat.Floor
import Mathlib.Data.Rat.Sqrt
import SceneBatch.Number.Scalar

/-!
# Exact numbers

Rational numbers are scalars too, so tracks can be sampled and skeletons posed without rounding.
They lack square roots and the functions of angles: any functions do for these
(`RationalApproximation`), and nothing here depends on which they are.

The remainder is made as for single-precision numbers, from that of a quotient cut toward zero. For
positive divisors it is the number between zero and the divisor that differs from the dividend by a
multiple of it (`Exact.remainder_eq_toIcoMod`).
-/

namespace SceneBatch

/-- What stands in for the functions that have irrational values. -/
class RationalApproximation where
  sqrt : ℚ → ℚ
  sin : ℚ → ℚ
  acos : ℚ → ℚ

namespace Exact

/-- The first terms of the series of sine and arc cosine, and a root that is exact for squares. -/
@[reducible] def firstTerms : RationalApproximation where
  sqrt := Rat.sqrt
  sin x := x - x ^ 3 / 6
  acos x := 355 / 226 - x - x ^ 3 / 6

/-- A number cut toward zero. -/
def truncate (x : ℚ) : ℤ := if 0 ≤ x then ⌊x⌋ else ⌈x⌉

/-- The remainder of the quotient of `x` by `y` cut toward zero. -/
def truncatedRemainder (x y : ℚ) : ℚ := x - truncate (x / y) * y

/-- The remainder that is not negative: the truncated one, moved up by `|y|` where it is
negative. -/
def remainder (x y : ℚ) : ℚ :=
  let r := truncatedRemainder x y
  if r < 0 then r + |y| else r

variable {y : ℚ}

theorem abs_truncatedRemainder_lt (hy : 0 < y) (x : ℚ) : |truncatedRemainder x y| < y := by
  rw [abs_lt, truncatedRemainder, truncate]
  split
  · have hnonneg := Int.sub_floor_div_mul_nonneg x hy
    exact ⟨by linarith, Int.sub_floor_div_mul_lt x hy⟩
  · have hle : x ≤ ⌈x / y⌉ * y := (div_le_iff₀ hy).mp (Int.le_ceil _)
    have hlt : ⌈x / y⌉ * y < (x / y + 1) * y :=
      mul_lt_mul_of_pos_right (Int.ceil_lt_add_one _) hy
    rw [add_mul, div_mul_cancel₀ x hy.ne', one_mul] at hlt
    exact ⟨by linarith, by linarith⟩

theorem remainder_mem_Ico (hy : 0 < y) (x : ℚ) : remainder x y ∈ Set.Ico 0 y := by
  obtain ⟨hlower, hupper⟩ := abs_lt.mp (abs_truncatedRemainder_lt hy x)
  rw [remainder]
  split
  · rw [abs_of_pos hy]
    exact ⟨by linarith, by linarith⟩
  · exact ⟨by linarith, hupper⟩

theorem exists_remainder_add (hy : 0 < y) (x : ℚ) : ∃ n : ℤ, x = remainder x y + n • y := by
  have htruncated : x = truncatedRemainder x y + truncate (x / y) * y := by
    rw [truncatedRemainder, sub_add_cancel]
  rw [remainder]
  split
  · refine ⟨truncate (x / y) - 1, ?_⟩
    rw [abs_of_pos hy, zsmul_eq_mul, Int.cast_sub, Int.cast_one]
    linarith
  · exact ⟨truncate (x / y), by rw [zsmul_eq_mul, ← htruncated]⟩

theorem remainder_eq_toIcoMod (hy : 0 < y) (x : ℚ) : remainder x y = toIcoMod hy 0 x := by
  symm
  rw [toIcoMod_eq_iff, zero_add]
  exact ⟨remainder_mem_Ico hy x, exists_remainder_add hy x⟩

end Exact

instance [RationalApproximation] : Scalar ℚ where
  zero := 0
  one := 1
  decideLt := inferInstance
  decideLe := inferInstance
  remainder := Exact.remainder
  sqrt := RationalApproximation.sqrt
  sin := RationalApproximation.sin
  acos := RationalApproximation.acos

end SceneBatch
