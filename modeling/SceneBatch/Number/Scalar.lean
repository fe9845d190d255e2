import SceneBatch.Number.Single

/-!
# Scalars

Keyframe sampling and posing are written once for every type of number that has the operations
of `Scalar`. Frames are built with single-precision numbers; the laws of sampling are about exact
ones.
-/

namespace SceneBatch

/-- The arithmetic that sampling, blending and posing need. The comparisons are decidable,
`remainder x y` is the remainder of `x / y` that is not negative, and angles are in radians. -/
class Scalar (α : Type) extends Add α, Sub α, Mul α, Div α, Neg α, Zero α, One α, LT α, LE α,
    OfScientific α where
  decideLt : DecidableLT α
  decideLe : DecidableLE α
  remainder : α → α → α
  sqrt : α → α
  sin : α → α
  acos : α → α

instance scalarDecidableLT {α : Type} [Scalar α] : DecidableLT α := Scalar.decideLt

instance scalarDecidableLE {α : Type} [Scalar α] : DecidableLE α := Scalar.decideLe

instance : Scalar Float32 where
  zero := 0
  one := 1
  decideLt := inferInstance
  decideLe := inferInstance
  remainder := Single.remainder
  sqrt := Float32.sqrt
  sin := Float32.sin
  acos := Float32.acos

end SceneBatch
