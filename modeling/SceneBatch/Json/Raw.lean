import SceneBatch.Files.Bytes
import SceneBatch.Json.Literal
import SceneBatch.Text.Hex

/-!
# Raw JSON

A JSON text divided into its parts, whose strings and numbers stand as they are written. What a
string or a number stands for is found out only where somebody looks at it: a text may hold
malformed strings and boundless numbers where nobody does.
-/

namespace SceneBatch

/-- A JSON text in parts. A string is what stands between its quotes. -/
inductive RawJson where
  | null
  | bool (value : Bool)
  | number (literal : JsonLiteral)
  | string (text : Bytes)
  | array (elements : List RawJson)
  | object (members : List (Bytes × RawJson))

namespace RawJson

/-! ### Strings -/

/-- Take four hexadecimal digits off the front. -/
def takeHex4 : Bytes → Option (Nat × Bytes)
  | a :: b :: c :: d :: rest => do
    let ds ← [a, b, c, d].mapM fun byte => Hex.value? (Char.ofNat byte.toNat)
    return (ds.foldl (fun n d => n * 16 + d) 0, rest)
  | _ => none

/-- What a letter behind a backslash stands for. -/
def letters : List (Char × Char) :=
  [('"', '"'), ('\\', '\\'), ('/', '/'), ('b', '\x08'), ('f', '\x0c'), ('n', '\n'), ('r', '\r'),
   ('t', '\t')]

/-- Whether a code unit is the first half of a pair. -/
def isHigh (unit : Nat) : Bool := 0xD800 ≤ unit && unit ≤ 0xDBFF

/-- Whether a code unit is the second half of a pair. -/
def isLow (unit : Nat) : Bool := 0xDC00 ≤ unit && unit ≤ 0xDFFF

/-- Read what follows `\u`: a code unit, or a pair of code units for a character past the basic
plane. Half a pair is no character. -/
def takeUnits (b : Bytes) : Option (Char × Bytes) := do
  let (high, rest) ← takeHex4 b
  if isLow high then none
  else if ¬isHigh high then return (Char.ofNat high, rest)
  else
    match rest with
    | backslash :: u :: rest =>
      let (low, rest) ← takeHex4 rest
      if backslash = '\\'.toUInt8 ∧ u = 'u'.toUInt8 ∧ isLow low then
        return (Char.ofNat (0x10000 + (high - 0xD800) * 0x400 + (low - 0xDC00)), rest)
      else none
    | _ => none

/-- Read what follows a backslash. -/
def takeEscape : Bytes → Option (Char × Bytes)
  | [] => none
  | b :: rest =>
    if b = 'u'.toUInt8 then takeUnits rest
    else (letters.lookup (Char.ofNat b.toNat)).map (·, rest)

/-- Replace the escapes of a string; `done` holds the bytes in front, last first. -/
def unescape : Nat → Bytes → Bytes → Option Bytes
  | _, done, [] => some done.reverse
  | 0, _, _ => none
  | fuel + 1, done, b :: rest =>
    if b = '\\'.toUInt8 then do
      let (c, rest) ← takeEscape rest
      unescape fuel ((Bytes.ofText c.toString).reverse ++ done) rest
    else unescape fuel (b :: done) rest

/-- The text that a string stands for: its escapes stand for characters, and it is UTF-8. -/
def decodeText? (text : Bytes) : Option String := do
  Bytes.toText? (← unescape text.length [] text)

/-! ### Values -/

mutual

/-- The value of a text of which every part is looked at. -/
def toJson? : RawJson → Option Json
  | .null => some .null
  | .bool b => some (.bool b)
  | .number l => l.value?.map .number
  | .string s => (decodeText? s).map .string
  | .array elements => (elementsToJson? elements).map .array
  | .object members => (membersToJson? members).map .object

/-- The values of elements. -/
def elementsToJson? : List RawJson → Option (List Json)
  | [] => some []
  | e :: rest => do return (← toJson? e) :: (← elementsToJson? rest)

/-- The values of members. -/
def membersToJson? : List (Bytes × RawJson) → Option (List (String × Json))
  | [] => some []
  | (k, v) :: rest => do return (← decodeText? k, ← toJson? v) :: (← membersToJson? rest)

end

end RawJson

end SceneBatch
