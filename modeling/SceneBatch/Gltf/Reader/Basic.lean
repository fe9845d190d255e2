import SceneBatch.Json.Record

/-!
# Members of glTF records

What the records of a glTF document have in common: references by place, choices among codes and
words, and the members in which a document may be added to.
-/

namespace SceneBatch

namespace Gltf

/-- A reference by place; only its lowest 32 bits count. -/
def readIndex (v : RawJson) : Option Nat := v.toNat?.map (· % UInt32.size)

/-- A natural number of 32 bits. -/
def readShort (v : RawJson) : Option Nat := do
  let n ← v.toNat?
  if n < UInt32.size then some n else none

/-- A choice among numbers, of which only the lowest 32 bits count. -/
def readCode (codes : List (Nat × α)) (v : RawJson) : Option α := do codes.lookup (← readIndex v)

/-- A choice among words. -/
def readWord (words : List (String × α)) (v : RawJson) : Option α := do
  words.lookup (← v.toText?)

/-- Room for additions that are written down somewhere. None of them is known. -/
def readExtensions (v : RawJson) : Option Unit := (v.toRecord? [] 0).map fun _ => ()

/-- The one member of additions of any other kind that is looked at. -/
def reserved : String := "_allow_unknown_fields"

/-- Room for additions of any other kind. -/
def readExtras (v : RawJson) : Option Unit := do
  (← v.toRecord? [reserved] 0).field reserved RawJson.toUnit? ()

/-- The known members of a record that has room for additions. -/
def readRecord (names : List String) (least : Nat) (v : RawJson) : Option JsonRecord := do
  let r ← v.toRecord? names least
  let _ ← r.optionalField "extensions" readExtensions
  r.field "extras" readExtras ()
  return r

/-- A list of things that may be absent from a document. -/
def readItems (r : JsonRecord) (name : String) (read : RawJson → Option α) : Option (List α) :=
  r.field name (·.toList? read) []

end Gltf

end SceneBatch
