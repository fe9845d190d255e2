import SceneBatch.Number.Binary

/-!
# Decimal texts of binary values

A decimal literal is `significand · 10 ^ exponent`. It is rounded once to a binary format, and a
binary value is written with a fixed number of places, with a fixed number of significant
digits, or with the fewest digits that read back as the same value. All three are exact: a text
with rounding is that of the nearest decimal, a half going to the even neighbour.
-/

namespace SceneBatch

namespace BinaryFormat

variable (f : BinaryFormat)

/-- The pattern of the value nearest to `± significand · 10 ^ exponent`. A literal whose first
digit stands beyond four hundred places is infinite or zero in both formats, and is not
expanded. -/
def ofDecimal (negative : Bool) (significand : Nat) (exponent : Int) : Nat :=
  let lead : Int := exponent + (Nat.toDigits 10 significand).length
  if significand = 0 ∨ lead < -400 then f.withSign negative 0
  else if 400 < lead then f.withSign negative f.infinityBits
  else if 0 ≤ exponent then f.ofRatio negative (significand * tenTo exponent.toNat) 1
  else f.ofRatio negative significand (tenTo (-exponent).toNat)

end BinaryFormat

namespace Decimal

/-- The decimal digits of a number. -/
def digits (n : Nat) : List Char := Nat.toDigits 10 n

/-- `text` with zeros in front, to at least `width` characters. -/
def padZeros (width : Nat) (text : List Char) : List Char :=
  List.replicate (width - text.length) '0' ++ text

/-- A numerator and a denominator of `significand · 2 ^ exponent`. -/
def fraction (significand : Nat) (exponent : Int) : Nat × Nat :=
  if 0 ≤ exponent then (significand * twoTo exponent.toNat, 1)
  else (significand, twoTo (-exponent).toNat)

/-- `digits · 10 ^ exponent` in positional notation, without a point when it is an integer. -/
def positional (ds : List Char) (exponent : Int) : List Char :=
  if 0 ≤ exponent then ds ++ List.replicate exponent.toNat '0'
  else
    let places := (-exponent).toNat
    let padded := padZeros (places + 1) ds
    padded.take (padded.length - places) ++ '.' :: padded.drop (padded.length - places)

/-- `num / den` with exactly `places` digits after the point. -/
def fixed (num den places : Nat) : List Char :=
  positional (digits (roundDiv (num * tenTo places) den)) (-(places : Int))

/-- The decimal exponent of the first digit of a positive fraction. -/
def leadingExponent (num den : Nat) : Int :=
  let guess : Int := (digits num).length - (digits den).length
  let reaches : Bool :=
    if 0 ≤ guess then decide (den * tenTo guess.toNat ≤ num)
    else decide (den ≤ num * tenTo (-guess).toNat)
  if reaches then guess else guess - 1

/-- `num / den` in units of `10 ^ exponent`, rounded to an integer. -/
def inUnits (num den : Nat) (exponent : Int) : Nat :=
  if 0 ≤ exponent then roundDiv num (den * tenTo exponent.toNat)
  else roundDiv (num * tenTo (-exponent).toNat) den

/-- `num / den` as one digit, a point, `places` more digits, and an exponent written without
padding or plus sign. -/
def scientific (num den places : Nat) : List Char :=
  let (ds, exponent) :=
    if num = 0 then (List.replicate (places + 1) '0', (0 : Int))
    else
      let lead := leadingExponent num den
      let n := inUnits num den (lead - places)
      if n = tenTo (places + 1) then (digits (n / 10), lead + 1) else (digits n, lead)
  ds.take 1 ++ (if places = 0 then [] else '.' :: ds.drop 1) ++ 'e' :: (toString exponent).toList

/-- The fewest digits `d` and the exponent `e` such that `d · 10 ^ e` rounds to the pattern of the
positive value `num / den`: the coarsest grid on which one of the value's two neighbours reads
back, and of two such the nearer. The list of grids ends with seventeen digits, which always
read back in both formats. -/
def shortest (f : BinaryFormat) (num den : Nat) : Nat × Int :=
  let pattern := f.magnitudeOfRatio num den
  let lead := leadingExponent num den
  let readsBack (n : Nat) (e : Int) : Bool := f.ofDecimal false n e == pattern
  let hit (places : Nat) : Option (Nat × Int) :=
    let e := lead - places
    let near := inUnits num den e
    let other := if 0 < near ∧ readsBack (near - 1) e then near - 1 else near + 1
    if readsBack near e then some (near, e)
    else if readsBack other e then some (other, e)
    else none
  let (n, e) := ((List.range 17).findSome? hit).getD (inUnits num den (lead - 17), lead - 17)
  if n % 10 = 0 then (n / 10, e + 1) else (n, e)

end Decimal

end SceneBatch
