import SceneBatch.Files.Bytes
import SceneBatch.Text.Hex

/-!
# Percent-encoding

In a reference to a file, a percent sign in front of two hexadecimal digits stands for a byte.
A percent sign in front of anything else stands for itself.
-/

namespace SceneBatch

namespace Percent

/-- The bytes of a reference. -/
def decodeBytes : List Char → Bytes
  | [] => []
  | '%' :: a :: b :: rest =>
    match Hex.value? a, Hex.value? b with
    | some high, some low => UInt8.ofNat (high * 16 + low) :: decodeBytes rest
    | _, _ => Bytes.ofText "%" ++ decodeBytes (a :: b :: rest)
  | c :: rest => Bytes.ofText c.toString ++ decodeBytes rest

/-- The text that a reference stands for, if its bytes are one. -/
def decode? (s : String) : Option String := Bytes.toText? (decodeBytes s.toList)

end Percent

end SceneBatch
