import SceneBatch.Files.Bytes

/-!
# Base64

Bytes written as text, three bytes in four letters. The last group may be padded with equals
signs or cut short; bits that belong to no byte must be zero.
-/

namespace SceneBatch

namespace Base64

/-- The six bits a letter stands for. -/
def value? (c : Char) : Option Nat :=
  if 'A' ≤ c ∧ c ≤ 'Z' then some (c.toNat - 'A'.toNat)
  else if 'a' ≤ c ∧ c ≤ 'z' then some (c.toNat - 'a'.toNat + 26)
  else if '0' ≤ c ∧ c ≤ '9' then some (c.toNat - '0'.toNat + 52)
  else if c = '+' then some 62
  else if c = '/' then some 63
  else none

/-- The bytes of a last group of letters without its padding. -/
def decodeLast : List Char → Option Bytes
  | [] => some []
  | [a, b] => do
    let n := (← value? a) * 64 + (← value? b)
    if n % 16 = 0 then some [UInt8.ofNat (n / 16)] else none
  | [a, b, c] => do
    let n := ((← value? a) * 64 + (← value? b)) * 64 + (← value? c)
    if n % 4 = 0 then some [UInt8.ofNat (n / 1024), UInt8.ofNat (n / 4)] else none
  | _ => none

/-- The letters of a last group, with at most as much padding as fills it. -/
def unpad : List Char → List Char
  | [a, b, '=', '='] | [a, b, '='] => [a, b]
  | [a, b, c, '='] => [a, b, c]
  | cs => cs

/-- The bytes that a text stands for. -/
def decode? : List Char → Option Bytes
  | a :: b :: c :: d :: rest =>
    if d = '=' then
      if rest.isEmpty then decodeLast (unpad [a, b, c, d]) else none
    else do
      let n := (((← value? a) * 64 + (← value? b)) * 64 + (← value? c)) * 64 + (← value? d)
      return UInt8.ofNat (n / 65536) :: UInt8.ofNat (n / 256) :: UInt8.ofNat n :: (← decode? rest)
  | cs => decodeLast (unpad cs)

end Base64

end SceneBatch
