import SceneBatch.Number.Decimal

/-!
# Single-precision numbers

Positions, angles, clocks and weights are single-precision. This module takes them apart and puts
them together exactly: conversion from integers, literals and bit patterns, the remainder of a
division, and their texts.
-/

namespace SceneBatch

namespace Single

/-- What a number stands for. -/
def value (x : Float32) : BinaryValue := BinaryFormat.single.decode x.toBits.toNat

/-- The number with a given bit pattern. -/
def ofPattern (bits : Nat) : Float32 := Float32.ofBits (UInt32.ofNat bits)

/-- The number nearest to `± significand · 2 ^ exponent`. -/
def ofScaled (negative : Bool) (significand : Nat) (exponent : Int) : Float32 :=
  ofPattern (BinaryFormat.single.ofScaled negative significand exponent)

/-- The number nearest to an integer. -/
def ofInt (n : Int) : Float32 := ofScaled (decide (n < 0)) n.natAbs 0

/-- The number nearest to a decimal literal, rounded once. -/
def ofLiteral (negative : Bool) (significand : Nat) (exponent : Int) : Float32 :=
  ofPattern (BinaryFormat.single.ofDecimal negative significand exponent)

/-- Positive infinity. -/
def infinity : Float32 := ofPattern BinaryFormat.single.infinityBits

/-- The not-a-number. -/
def notANumber : Float32 := ofPattern (BinaryFormat.single.infinityBits + 1)

/-- The remainder of the quotient of `x` by `y` cut toward zero. It is exact and has the sign
of `x`. -/
def truncatedRemainder (x y : Float32) : Float32 :=
  match value x, value y with
  | .finite s m e, .finite _ n d =>
    if n = 0 then notANumber
    else
      let unit := min e d
      ofScaled s (m * twoTo (e - unit).toNat % (n * twoTo (d - unit).toNat)) unit
  | .finite _ _ _, .infinite _ => x
  | _, _ => notANumber

/-- The remainder that is not negative: the truncated one, moved up by `|y|` where it is
negative. -/
def remainder (x y : Float32) : Float32 :=
  let r := truncatedRemainder x y
  if r < 0 then r + y.abs else r

/-- The larger of two numbers; a not-a-number gives way to the other one. -/
def larger (x y : Float32) : Float32 :=
  if x.isNaN then y else if y.isNaN then x else if x < y then y else x

/-- The smaller of two numbers; a not-a-number gives way to the other one. -/
def smaller (x y : Float32) : Float32 :=
  if x.isNaN then y else if y.isNaN then x else if y < x then y else x

/-! ### Texts -/

/-- Write a finite magnitude by `digits`, with a minus sign in front where the number has one;
infinities are `inf` and the rest is `NaN`. -/
def textWith (magnitude : Nat → Nat → List Char) (x : Float32) : String :=
  match value x with
  | .finite s m e =>
    let (num, den) := Decimal.fraction m e
    String.ofList ((if s then ['-'] else []) ++ magnitude num den)
  | .infinite s => if s then "-inf" else "inf"
  | .notANumber => "NaN"

/-- A number with a fixed count of digits after the point. -/
def fixedText (places : Nat) : Float32 → String :=
  textWith fun num den => Decimal.fixed num den places

/-- A number in scientific notation with a fixed count of digits after the point. -/
def scientificText (places : Nat) : Float32 → String :=
  textWith fun num den => Decimal.scientific num den places

/-- A number in positional notation with the fewest digits that read back; integers have no
point. -/
def shortestText : Float32 → String :=
  textWith fun num den =>
    if num = 0 then ['0']
    else
      let (n, e) := Decimal.shortest .single num den
      Decimal.positional (Decimal.digits n) e

/-! ### Reading -/

/-- A decimal literal in parts: an optional sign, digits with at most one point, and an optional
exponent. -/
structure Literal where
  negative : Bool
  significand : Nat
  exponent : Int

/-- The value of a run of digits. -/
def digitsValue (ds : List Char) : Nat :=
  ds.foldl (fun n c => n * 10 + (c.toNat - '0'.toNat)) 0

/-- Take an optional sign off a text. -/
def takeSign : List Char → Bool × List Char
  | '-' :: rest => (true, rest)
  | '+' :: rest => (false, rest)
  | cs => (false, cs)

/-- Read the exponent part of a literal, which may be absent but not half there. -/
def readExponent : List Char → Option Int
  | [] => some 0
  | c :: rest =>
    if c = 'e' ∨ c = 'E' then
      let (negative, ds) := takeSign rest
      if ds ≠ [] ∧ ds.all Char.isDigit then
        some (if negative then -(digitsValue ds : Int) else digitsValue ds)
      else none
    else none

/-- Read an unsigned decimal literal: digits before or after the point, or both. -/
def readMagnitude (negative : Bool) (cs : List Char) : Option Literal :=
  let whole := cs.takeWhile Char.isDigit
  let (places, rest) := match cs.dropWhile Char.isDigit with
    | '.' :: r => (r.takeWhile Char.isDigit, r.dropWhile Char.isDigit)
    | r => ([], r)
  if whole = [] ∧ places = [] then none
  else (readExponent rest).map fun e =>
    ⟨negative, digitsValue (whole ++ places), e - places.length⟩

/-- Read a number as it is typed on a command line: a decimal literal, or in any case `inf`,
`infinity` or `nan`, with an optional sign. -/
def ofText? (text : String) : Option Float32 :=
  let (negative, cs) := takeSign text.toList
  let word := String.ofList (cs.map Char.toLower)
  if word = "inf" ∨ word = "infinity" then some (if negative then -infinity else infinity)
  else if word = "nan" then some notANumber
  else (readMagnitude negative cs).map fun l => ofLiteral l.negative l.significand l.exponent

end Single

end SceneBatch
