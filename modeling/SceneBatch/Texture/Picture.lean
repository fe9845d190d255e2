import SceneBatch.Files.Bytes

/-!
# Pictures

A picture is a texel for each column and row. All layers of a texture array are pictures of the same
size.
-/

namespace SceneBatch

/-- A color with its opacity. -/
structure Texel where
  red : UInt8
  green : UInt8
  blue : UInt8
  alpha : UInt8
  deriving DecidableEq, Repr

namespace Texel

/-- Opaque white. -/
def white : Texel := ⟨255, 255, 255, 255⟩

/-- The four bytes of a texel. -/
def toBytes (t : Texel) : Bytes := [t.red, t.green, t.blue, t.alpha]

end Texel

/-- A picture; outside its size its texels mean nothing. -/
structure Picture where
  width : Nat
  height : Nat
  texel : (column row : Nat) → Texel

namespace Picture

/-- A white square. -/
def white (size : Nat) : Picture := ⟨size, size, fun _ _ => .white⟩

/-- The texels in rows, top to bottom. -/
def toBytes (p : Picture) : Bytes :=
  (List.range p.height).flatMap fun row =>
    (List.range p.width).flatMap fun column => (p.texel column row).toBytes

end Picture

end SceneBatch
