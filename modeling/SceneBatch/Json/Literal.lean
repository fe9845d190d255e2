import SceneBatch.Json.Basic

/-!
# Number literals

A number as it is written in a JSON text, and the number it stands for. An integer of 64 bits is
kept; any other number is double-precision. Of its digits as many count as fit into 64 bits, those
behind them only by their places, and the result is rounded twice: once to double precision as an
integer, and once when the power of ten is multiplied or divided in.
-/

namespace SceneBatch

/-- A number in a JSON text: the digits in front of the point, those behind it, and the exponent
with its sign. Behind a point there is at least one digit. -/
structure JsonLiteral where
  negative : Bool
  whole : List Nat
  places : List Nat := []
  exponent : Option (Bool × List Nat) := none
  deriving DecidableEq

namespace JsonLiteral

/-- Append digits to a significand as long as it fits into 64 bits: the significand and the digits
that are left. -/
def appendDigits (significand : Nat) : List Nat → Nat × List Nat
  | [] => (significand, [])
  | d :: ds =>
    let next := significand * 10 + d
    if next < UInt64.size then appendDigits next ds else (significand, d :: ds)

/-- The value of a run of digits. -/
def digitsValue (ds : List Nat) : Nat := ds.foldl (fun n d => n * 10 + d) 0

/-- The largest exponent of a power of ten that is a double-precision number. -/
def maxPower : Nat := 308

/-- The double-precision number nearest to a power of ten. -/
def power (exponent : Nat) : Float :=
  Float.ofBits (UInt64.ofNat (BinaryFormat.double.ofDecimal false 1 exponent))

/-- Multiply by a power of ten; none where the result is infinite. -/
def raise? (x : Float) (exponent : Nat) : Option Float :=
  if maxPower < exponent then if x == 0 then some x else none
  else
    let y := x * power exponent
    if y.isInf then none else some y

/-- Divide by a power of ten, in steps that double precision has a power for. -/
def lower (x : Float) (exponent : Nat) : Float :=
  if exponent ≤ maxPower then x / power exponent
  else if x == 0 then x
  else lower (x / power maxPower) (exponent - maxPower)
termination_by exponent
decreasing_by simp only [maxPower] at *; omega

/-- The largest value of an exponent that is looked at. -/
def maxExponent : Nat := 2147483647

/-- The magnitude `significand · 10 ^ shift`, to which the written exponent is still to be added.
There is none past the largest double-precision number. -/
def magnitude? (significand : Nat) (shift : Int) (exponent : Option (Bool × List Nat)) :
    Option Float :=
  let x := (UInt64.ofNat significand).toFloat
  let scale (e : Int) : Option Float :=
    if 0 ≤ e then raise? x e.toNat else some (lower x (-e).toNat)
  match exponent with
  | none => scale shift
  | some (negative, ds) =>
    let n := digitsValue ds
    if maxExponent < n then if significand = 0 ∨ negative then some 0 else none
    else scale (if negative then shift - n else shift + n)

/-- An integer that fits into 64 bits. Zero with a minus sign is none. -/
def integer? (negative : Bool) (n : Nat) : Option Int :=
  if ¬negative then some n
  else if 0 < n ∧ n ≤ 0x8000000000000000 then some (-(n : Int))
  else none

/-- The number that a literal stands for. -/
def value? (l : JsonLiteral) : Option JsonNumber :=
  let (significand, rest) := appendDigits 0 l.whole
  let (significand, unread) := appendDigits significand l.places
  let isInteger := rest = [] ∧ l.places = [] ∧ l.exponent.isNone
  match if isInteger then integer? l.negative significand else none with
  | some n => some (.integer n)
  | none => do
    let shift : Int := rest.length - (l.places.length - unread.length : Nat)
    let x ← magnitude? significand shift l.exponent
    return .real (if l.negative then -x else x)

end JsonLiteral

end SceneBatch
