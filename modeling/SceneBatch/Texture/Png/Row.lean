import SceneBatch.Files.Bytes

/-!
# Rows of a PNG

Each row of a picture is filtered: from its bytes those of neighbouring texels are taken away. A
byte in front of the row names the filter.
-/

namespace SceneBatch

namespace Png

/-- Of three neighbours, left, above, and left above, the one nearest to left plus above minus
left above; ties go to the first. -/
def paeth (a b c : UInt8) : UInt8 :=
  let p : Int := a.toNat + b.toNat - c.toNat
  let da := (p - a.toNat).natAbs
  let db := (p - b.toNat).natAbs
  let dc := (p - c.toNat).natAbs
  if da ≤ db ∧ da ≤ dc then a else if db ≤ dc then b else c

/-- What a filter adds to a byte, given its neighbours left, above, and left above. -/
def prediction? : UInt8 → Option (UInt8 → UInt8 → UInt8 → UInt8)
  | 0 => some fun _ _ _ => 0
  | 1 => some fun a _ _ => a
  | 2 => some fun _ b _ => b
  | 3 => some fun a b _ => UInt8.ofNat ((a.toNat + b.toNat) / 2)
  | 4 => some paeth
  | _ => none

/-- Undo a filter on a row, byte by byte. `done` holds the bytes before, last first, and `corner`
those of the row above that are one texel to the left. -/
def unfilterRow (predict : UInt8 → UInt8 → UInt8 → UInt8) (step : Nat) :
    (done corner above row : Bytes) → Bytes
  | done, _, _, [] => done.reverse
  | done, corner, above, x :: row =>
    let a := (done[step - 1]?).getD 0
    let y := x + predict a (above.headD 0) (corner.headD 0)
    unfilterRow predict step (y :: done) corner.tail above.tail row

/-- The rows of a picture's bytes: each one a filter and `length` bytes. -/
def rows? (step length : Nat) : Nat → (above b : Bytes) → Option (List Bytes)
  | 0, _, _ => some []
  | count + 1, above, b =>
    match b with
    | filter :: rest => do
      let predict ← prediction? filter
      let raw ← Bytes.slice? rest 0 length
      let row := unfilterRow predict step [] (List.replicate step 0 ++ above) above raw
      return row :: (← rows? step length count row (rest.drop length))
    | [] => none

end Png

end SceneBatch
