import SceneBatch.Gltf.Document
import SceneBatch.Gltf.Reader.Basic

/-!
# Reading meshes
-/

namespace SceneBatch

namespace Gltf

/-- A natural number of 32 bits in digits, after an optional plus sign. -/
def readSetNumber (cs : List Char) : Option Nat :=
  let ds := match cs with
    | '+' :: rest => rest
    | _ => cs
  let n := Single.digitsValue ds
  if ds ≠ [] ∧ ds.all Char.isDigit ∧ n < UInt32.size then some n else none

/-- The attributes that come in numbered sets. -/
def numberedSemantics : List (String × (Nat → Semantic)) :=
  [("COLOR_", .color), ("TEXCOORD_", .texcoord), ("JOINTS_", .joints), ("WEIGHTS_", .weights)]

/-- The meaning of an attribute's name. -/
def readSemantic (name : String) : Option Semantic :=
  match name with
  | "POSITION" => some .position
  | "NORMAL" => some .normal
  | "TANGENT" => some .tangent
  | _ => numberedSemantics.findSome? fun (word, semantic) =>
    if word.toList.isPrefixOf name.toList then
      (readSetNumber (name.toList.drop word.length)).map semantic
    else none

/-- The attributes of a primitive, the last one first. Of two that mean the same the last one
counts. -/
def readAttributes : RawJson → Option (List (Semantic × Nat))
  | .object members => do
    let attributes ← members.reverse.mapM fun (name, v) => do
      return (← readSemantic (← RawJson.decodeText? name), ← readIndex v)
    return attributes.eraseDupsBy (·.1 == ·.1)
  | _ => none

/-- The accessors of a morph target. -/
def readMorph (v : RawJson) : Option (List Nat) := do
  let r ← v.toRecord? ["POSITION", "NORMAL", "TANGENT"] 3
  let position ← r.optionalField "POSITION" readIndex
  let normal ← r.optionalField "NORMAL" readIndex
  let tangent ← r.optionalField "TANGENT" readIndex
  return position.toList ++ normal.toList ++ tangent.toList

/-- The modes of primitives by their codes. -/
def modeCodes : List (Nat × PrimitiveMode) :=
  [(0, .points), (1, .lines), (2, .lineLoop), (3, .lineStrip), (4, .triangles),
   (5, .triangleStrip), (6, .triangleFan)]

/-- A primitive. -/
def readPrimitive (v : RawJson) : Option Primitive := do
  let r ← readRecord ["attributes", "extensions", "extras", "indices", "material", "mode",
    "targets"] 7 v
  return { attributes := ← r.requiredField "attributes" readAttributes
           indices := ← r.optionalField "indices" readIndex
           material := ← r.optionalField "material" readIndex
           mode := ← r.field "mode" (readCode modeCodes) .triangles
           morphs := ((← r.optionalField "targets" (·.toList? readMorph)).getD []).flatten }

/-- A mesh. -/
def readMesh (v : RawJson) : Option Mesh := do
  let r ← readRecord ["extensions", "extras", "name", "primitives", "weights"] 5 v
  let _ ← r.optionalField "weights" (·.toList? RawJson.toSingle?)
  return { name := ← r.optionalField "name" RawJson.toText?
           primitives := ← r.requiredField "primitives" (·.toList? readPrimitive) }

end Gltf

end SceneBatch
