import SceneBatch.Files.Bytes

/-!
# Stored blocks

The data of a PNG is one stream, of which the chunks hold pieces. Its blocks are stored as they
are. A stream that ends too early is taken as far as it goes; so a stream is damaged only where
what is there is wrong.
-/

namespace SceneBatch

namespace Png

/-- The bytes that stored blocks hold, as far as they go; none where a block is damaged. In front
of a block stand a byte that tells whether it is the last one, its length, and the length's
complement; the first byte is looked at when there is another one behind it. -/
def stored? : Bytes → Option Bytes
  | [] | [_] => some []
  | kind :: a :: rest =>
    let length := Bytes.toNat ((a :: rest).take 2)
    let complement := Bytes.toNat ((a :: rest).drop 2 |>.take 2)
    let data := (a :: rest).drop 4
    if kind.toNat / 2 % 4 ≠ 0 then none
    else if rest.length < 3 then some []
    else if length + complement ≠ 65535 then none
    else if kind.toNat % 2 = 1 then some (data.take length)
    else do return data.take length ++ (← stored? (data.drop length))
termination_by b => b.length
decreasing_by simp only [List.length_drop, List.length_cons]; omega

/-- The bytes in a stream, as far as it goes. Its first two bytes name the method and the size of
its window. -/
def inflate? : Bytes → Option Bytes
  | method :: flags :: rest =>
    if method.toNat % 16 = 8 ∧ method.toNat / 16 ≤ 7 ∧ flags.toNat / 32 % 2 = 0 ∧
        (method.toNat * 256 + flags.toNat) % 31 = 0 then stored? rest
    else none
  | _ => some []

/-- The bytes in a stream that comes in pieces: those up to the first damaged piece. -/
def inflatePieces (pieces : List Bytes) : Bytes :=
  let counts := (List.range (pieces.length + 1)).reverse
  (counts.findSome? fun count => inflate? (pieces.take count).flatten).getD []

end Png

end SceneBatch
