import SceneBatch.Files.Bytes

/-!
# Hexadecimal digits
-/

namespace SceneBatch

namespace Hex

/-- The value of a hexadecimal digit. -/
def value? (c : Char) : Option Nat :=
  if '0' ≤ c ∧ c ≤ '9' then some (c.toNat - '0'.toNat)
  else if 'a' ≤ c ∧ c ≤ 'f' then some (c.toNat - 'a'.toNat + 10)
  else if 'A' ≤ c ∧ c ≤ 'F' then some (c.toNat - 'A'.toNat + 10)
  else none

/-- The digit of a number below sixteen. -/
def digit (n : Nat) : Char := Nat.digitChar n

/-- Two digits for each byte. -/
def encode (b : Bytes) : String :=
  String.ofList (b.flatMap fun byte => [digit (byte.toNat / 16), digit (byte.toNat % 16)])

/-- The bytes of pairs of digits. -/
def decode? : List Char → Option Bytes
  | [] => some []
  | a :: b :: rest => do
    return UInt8.ofNat ((← value? a) * 16 + (← value? b)) :: (← decode? rest)
  | _ => none

end Hex

end SceneBatch
