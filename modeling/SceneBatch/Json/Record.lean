import SceneBatch.Json.Reader

/-!
# Records in JSON

A record is an object, or an array of the members in a fixed order. In an object, the members that
its reader knows are looked at and others are passed over; a known member may not occur twice.
An array may end early where only members with defaults are left. Where a member is optional, `null`
is as good as its absence; where it has a default, only its absence is.
-/

namespace SceneBatch

/-- The known members of a record. -/
abbrev JsonRecord := List (String × RawJson)

namespace RawJson

/-- The known members of a record with the given names, of which an array gives at least the first
`least`. -/
def toRecord? (names : List String) (least : Nat) : RawJson → Option JsonRecord
  | .object members => do
    let members ← members.mapM fun (k, v) => do return (← decodeText? k, v)
    let known := members.filter fun m => names.contains m.1
    if (known.map Prod.fst).Nodup then some known else none
  | .array elements =>
    if least ≤ elements.length ∧ elements.length ≤ names.length then some (names.zip elements)
    else none
  | _ => none

/-! ### Typed readers -/

/-- A text. -/
def toText? : RawJson → Option String
  | .string s => decodeText? s
  | _ => none

/-- A truth value. -/
def toBool? : RawJson → Option Bool
  | .bool b => some b
  | _ => none

/-- Nothing, which is written as `null`. -/
def toUnit? : RawJson → Option Unit
  | .null => some ()
  | _ => none

/-- A natural number of 64 bits. -/
def toNat? : RawJson → Option Nat
  | .number l =>
    match l.value? with
    | some (.integer n) => if 0 ≤ n then some n.toNat else none
    | _ => none
  | _ => none

/-- A single-precision number. A number within double precision may become infinite. -/
def toSingle? : RawJson → Option Float32
  | .number l => l.value?.map JsonNumber.toSingle
  | _ => none

/-- The elements of an array, each read by `read`. -/
def toList? (read : RawJson → Option α) : RawJson → Option (List α)
  | .array elements => elements.mapM read
  | _ => none

/-- Exactly `count` numbers. -/
def toSingles? (count : Nat) (v : RawJson) : Option (List Float32) := do
  let xs ← v.toList? toSingle?
  if xs.length = count then some xs else none

end RawJson

namespace JsonRecord

/-- Read a member, or take `default` where it is absent. -/
def field (r : JsonRecord) (name : String) (read : RawJson → Option α) (default : α) : Option α :=
  match r.lookup name with
  | some v => read v
  | none => some default

/-- Read a member that may be absent or `null`. -/
def optionalField (r : JsonRecord) (name : String) (read : RawJson → Option α) :
    Option (Option α) :=
  match r.lookup name with
  | none | some .null => some none
  | some v => (read v).map some

/-- Read a member that must be there. -/
def requiredField (r : JsonRecord) (name : String) (read : RawJson → Option α) : Option α := do
  read (← r.lookup name)

end JsonRecord

end SceneBatch
