/-!
# Byte strings

Files, buffers and device memory hold byte strings. Numbers in them are little-endian.
-/

namespace SceneBatch

/-- A string of bytes. -/
abbrev Bytes := List UInt8

namespace Bytes

/-- The UTF-8 bytes of a text. -/
def ofText (s : String) : Bytes := s.toUTF8.toList

/-- The text whose UTF-8 bytes are given, if they are valid. -/
def toText? (b : Bytes) : Option String := String.fromUTF8? ⟨b.toArray⟩

/-- The `count` lowest bytes of a number, lowest first. -/
def ofNat (count n : Nat) : Bytes :=
  match count with
  | 0 => []
  | count + 1 => UInt8.ofNat n :: ofNat count (n / 256)

/-- The number whose bytes are given, lowest first. -/
def toNat (b : Bytes) : Nat := b.foldr (fun byte n => byte.toNat + 256 * n) 0

/-- The four bytes of an integer, in two's complement. -/
def ofInt (n : Int) : Bytes := ofNat 4 (n % UInt32.size).toNat

/-- The integer in two's complement with the given four bytes. -/
def toInt (b : Bytes) : Int := Int.bmod (toNat b) UInt32.size

/-- The four bytes of a 32-bit integer with a sign. -/
def ofInt32 (n : Int32) : Bytes := ofNat 4 n.toUInt32.toNat

/-- The 32-bit integer with a sign with the given four bytes. -/
def toInt32 (b : Bytes) : Int32 := (UInt32.ofNat (toNat b)).toInt32

/-- The four bytes of a single-precision number. -/
def ofSingle (x : Float32) : Bytes := ofNat 4 x.toBits.toNat

/-- The single-precision number with the given four bytes. -/
def toSingle (b : Bytes) : Float32 := Float32.ofBits (UInt32.ofNat (toNat b))

/-- Add zeros up to a multiple of `unit` bytes. -/
def padTo (unit : Nat) (filler : UInt8) (b : Bytes) : Bytes :=
  b ++ List.replicate ((unit - b.length % unit) % unit) filler

/-- The bytes from `offset` on, `count` of them; none where the string is too short. -/
def slice? (b : Bytes) (offset count : Nat) : Option Bytes :=
  if offset + count ≤ b.length then some ((b.drop offset).take count) else none

/-- Cut into pieces of `size` bytes; what is left over is dropped. -/
def pieces (size : Nat) (b : Bytes) : List Bytes :=
  go (b.length / size) b
where
  /-- The first `count` pieces. -/
  go : Nat → Bytes → List Bytes
    | 0, _ => []
    | count + 1, b => b.take size :: go count (b.drop size)

@[simp] theorem length_ofNat (count n : Nat) : (ofNat count n).length = count := by
  induction count generalizing n with
  | zero => rfl
  | succ count ih => simp [ofNat, ih]

@[simp] theorem length_ofSingle (x : Float32) : (ofSingle x).length = 4 := length_ofNat 4 _

@[simp] theorem length_ofInt (n : Int) : (ofInt n).length = 4 := length_ofNat 4 _

@[simp] theorem length_ofInt32 (n : Int32) : (ofInt32 n).length = 4 := length_ofNat 4 _

end Bytes

end SceneBatch
