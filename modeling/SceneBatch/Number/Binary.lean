/-!
# Binary floating-point formats

A bit pattern of an interchange format stands for `± significand · 2 ^ exponent`, an infinity or
a not-a-number. `BinaryFormat.decode` reads a pattern, `BinaryFormat.ofRatio` gives the pattern
of the value nearest to a fraction. Both work on natural numbers, so nothing is lost on the way.
-/

namespace SceneBatch

/-- Two to a power. -/
abbrev twoTo (exponent : Nat) : Nat := Nat.pow 2 exponent

/-- Ten to a power. -/
abbrev tenTo (exponent : Nat) : Nat := Nat.pow 10 exponent

/-- Divide and round to the nearest integer; a half goes to the even neighbour. -/
def roundDiv (num den : Nat) : Nat :=
  let q := num / den
  let r := num % den
  if den < 2 * r ∨ (2 * r = den ∧ q % 2 = 1) then q + 1 else q

/-- A binary interchange format, by the width of its significand (hidden bit included) and of
its exponent field. -/
structure BinaryFormat where
  precision : Nat
  exponentBits : Nat

namespace BinaryFormat

/-- Four bytes: the format of every stored number of a scene, a model or a buffer. -/
def single : BinaryFormat := ⟨24, 8⟩

/-- Eight bytes: the format numbers of a text file are read in first. -/
def double : BinaryFormat := ⟨53, 11⟩

variable (f : BinaryFormat)

/-- The power of two that the last place of the smallest values has. -/
def leastExponent : Int := 3 - twoTo (f.exponentBits - 1) - f.precision

/-- The pattern of positive infinity: every exponent bit set. -/
def infinityBits : Nat := (twoTo f.exponentBits - 1) * twoTo (f.precision - 1)

/-- The sign bit alone. -/
def signBit : Nat := twoTo (f.precision - 1 + f.exponentBits)

end BinaryFormat

/-- What a bit pattern stands for. -/
inductive BinaryValue where
  | finite (negative : Bool) (significand : Nat) (exponent : Int)
  | infinite (negative : Bool)
  | notANumber

namespace BinaryFormat

variable (f : BinaryFormat)

/-- Read a bit pattern. -/
def decode (bits : Nat) : BinaryValue :=
  let negative := f.signBit ≤ bits
  let magnitude := bits % f.signBit
  let fraction := magnitude % twoTo (f.precision - 1)
  let field := magnitude / twoTo (f.precision - 1)
  if magnitude = f.infinityBits then .infinite negative
  else if f.infinityBits < magnitude then .notANumber
  else if field = 0 then .finite negative fraction f.leastExponent
  else .finite negative (twoTo (f.precision - 1) + fraction) (f.leastExponent + (field - 1 : Nat))

/-- Put a sign on the pattern of a magnitude. -/
def withSign (negative : Bool) (magnitude : Nat) : Nat :=
  if negative then f.signBit + magnitude else magnitude

/-- `num / den · 2 ^ (-exponent)`, rounded to an integer. -/
def scaled (num den : Nat) (exponent : Int) : Nat :=
  if 0 ≤ exponent then roundDiv num (den * twoTo exponent.toNat)
  else roundDiv (num * twoTo (-exponent).toNat) den

/-- The pattern of the magnitude nearest to `num / den`; past the largest finite value it is
infinity. A significand of `m` units of `2 ^ e` has the pattern
`(e - leastExponent) · 2 ^ (precision - 1) + m`, whether `m` has all its bits or, at the least
exponent, fewer. -/
def magnitudeOfRatio (num den : Nat) : Nat :=
  if num = 0 then 0
  else
    let guess : Int := (Nat.log2 num : Int) - Nat.log2 den - f.precision
    let floorAt (e : Int) : Nat :=
      if 0 ≤ e then num / (den * twoTo e.toNat) else num * twoTo (-e).toNat / den
    let exact := if twoTo f.precision ≤ floorAt guess then guess + 1 else guess
    let e := max exact f.leastExponent
    let pattern := (e - f.leastExponent).toNat * twoTo (f.precision - 1) + scaled num den e
    min pattern f.infinityBits

/-- The pattern of the value nearest to `± num / den`. -/
def ofRatio (negative : Bool) (num den : Nat) : Nat :=
  f.withSign negative (f.magnitudeOfRatio num den)

/-- The pattern of `± significand · 2 ^ exponent`, rounded to the format. -/
def ofScaled (negative : Bool) (significand : Nat) (exponent : Int) : Nat :=
  if 0 ≤ exponent then f.ofRatio negative (significand * twoTo exponent.toNat) 1
  else f.ofRatio negative significand (twoTo (-exponent).toNat)

end BinaryFormat

end SceneBatch
