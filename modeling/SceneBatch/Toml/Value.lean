import SceneBatch.Number.Single

/-!
# TOML values

What a TOML document says, once comments, spellings and the division into sections are forgotten.
-/

namespace SceneBatch

/-- A TOML value. A date or time is only known to be one. -/
inductive TomlValue where
  | string (value : String)
  | integer (value : Int)
  | float (value : Float)
  | boolean (value : Bool)
  | dateTime
  | array (elements : List TomlValue)
  | table (entries : List (String × TomlValue))

namespace TomlValue

/-! ### Typed readers

Each reader accepts the values that a field of its type may have; a field is named by its key, or
stands at its place in an array that is given instead of a table. -/

/-- A text. -/
def toText? : TomlValue → Option String
  | string s => some s
  | _ => none

/-- A truth value. -/
def toBool? : TomlValue → Option Bool
  | boolean b => some b
  | _ => none

/-- A natural number of at most `limit`. -/
def toNat? (limit : Nat) : TomlValue → Option Nat
  | integer n => if 0 ≤ n ∧ n ≤ limit then some n.toNat else none
  | _ => none

/-- A single-precision number; an integer may stand for it. -/
def toSingle? : TomlValue → Option Float32
  | float x => some x.toFloat32
  | integer n => some (Single.ofInt n)
  | _ => none

/-- The first `count` elements of an array of numbers. -/
def toSingles? (count : Nat) : TomlValue → Option (List Float32)
  | array elements => if elements.length < count then none else (elements.take count).mapM toSingle?
  | _ => none

/-- The elements of an array, each read by `read`. -/
def toList? (read : TomlValue → Option α) : TomlValue → Option (List α)
  | array elements => elements.mapM read
  | _ => none

/-- The entries of a table, each value read by `read`. -/
def toEntries? (read : TomlValue → Option α) : TomlValue → Option (List (String × α))
  | table entries => entries.mapM fun (k, v) => (read v).map (k, ·)
  | _ => none

/-- The values of a record with the given field names, in a table or in an array. A date or time
is a record that gives none of them. -/
def toRecord? (names : List String) : TomlValue → Option (List (String × TomlValue))
  | table entries => some entries
  | array elements => some (names.zip elements)
  | dateTime => some []
  | _ => none

end TomlValue

/-- The fields of a record. -/
abbrev TomlRecord := List (String × TomlValue)

namespace TomlRecord

/-- Read a field, or take `default` where it is absent. -/
def field (r : TomlRecord) (name : String) (read : TomlValue → Option α) (default : α) : Option α :=
  match r.lookup name with
  | some v => read v
  | none => some default

/-- Read a field that may be absent. -/
def optionalField (r : TomlRecord) (name : String) (read : TomlValue → Option α) :
    Option (Option α) :=
  match r.lookup name with
  | some v => (read v).map some
  | none => some none

/-- Read a field that must be there. -/
def requiredField (r : TomlRecord) (name : String) (read : TomlValue → Option α) : Option α := do
  read (← r.lookup name)

end TomlRecord

end SceneBatch
