import SceneBatch.Json.Raw

/-!
# Reading JSON

`RawJson.ofBytes?` divides a text that holds one JSON value and nothing else into its parts. First
the bytes are cut into tokens; then a stack of arrays and objects that are still open takes up one
token after the other, so values may nest as deep as they like.
-/

namespace SceneBatch

/-- A token of a JSON text: a bracket, a mark between values, or a value that is neither an array
nor an object. -/
inductive JsonToken where
  | openArray
  | closeArray
  | openObject
  | closeObject
  | comma
  | colon
  | string (text : Bytes)
  | scalar (value : RawJson)

namespace JsonToken

/-- The digit in a byte. -/
def digit? (b : UInt8) : Option Nat :=
  let c := Char.ofNat b.toNat
  if c.isDigit then some (c.toNat - '0'.toNat) else none

/-- Take digits off the front. -/
def takeDigits (b : Bytes) : List Nat × Bytes :=
  let ds := b.takeWhile fun byte => (digit? byte).isSome
  (ds.filterMap digit?, b.drop ds.length)

/-- Take the bytes of a word off the front. -/
def takeWord (word : String) (b : Bytes) : Option Bytes :=
  let w := Bytes.ofText word
  if w.isPrefixOf b then some (b.drop w.length) else none

/-- Take one of some characters off the front. -/
def takeOne (cs : List Char) : Bytes → Option (Char × Bytes)
  | [] => none
  | b :: rest => (cs.find? fun c => c.toUInt8 = b).map (·, rest)

/-- Read a number: digits without a leading zero, an optional fraction with at least one digit, an
optional exponent with at least one digit. -/
def takeNumber (b : Bytes) : Option (JsonLiteral × Bytes) := do
  let (negative, b) := match takeOne ['-'] b with
    | some (_, rest) => (true, rest)
    | none => (false, b)
  let (whole, b) := takeDigits b
  if whole = [] ∨ (whole.head? = some 0 ∧ 1 < whole.length) then none
  else
    let (places, b) ← match takeOne ['.'] b with
      | none => some ([], b)
      | some (_, b) =>
        let (ds, b) := takeDigits b
        if ds = [] then none else some (ds, b)
    match takeOne ['e', 'E'] b with
    | none => return ({ negative, whole, places }, b)
    | some (_, b) =>
      -- only an exponent may have a plus
      let (sign, b) := (takeOne ['-', '+'] b).getD ('+', b)
      let (ds, b) := takeDigits b
      if ds = [] then none
      else return ({ negative, whole, places, exponent := some (sign == '-', ds) }, b)

/-- Take a string up to its closing quote off the front; `done` holds the bytes in front, last
first. A backslash stands in front of a letter or of four digits, and there are no control
characters. -/
def takeString : Nat → Bytes → Bytes → Option (Bytes × Bytes)
  | 0, _, _ | _, _, [] => none
  | fuel + 1, done, b :: rest =>
    if b = '"'.toUInt8 then some (done.reverse, rest)
    else if b < 32 then none
    else if b ≠ '\\'.toUInt8 then takeString fuel (b :: done) rest
    else
      match rest with
      | [] => none
      | c :: rest =>
        -- the escape is kept as it is written, and decoded when the text is looked at
        if c = 'u'.toUInt8 then do
          let (_, after) ← RawJson.takeHex4 rest
          takeString fuel ((rest.take 4).reverse ++ c :: b :: done) after
        else if RawJson.letters.any fun l => l.1.toUInt8 = c then
          takeString fuel (c :: b :: done) rest
        else none

/-- Cut bytes into tokens; `done` holds those already read, last first. -/
def tokens : Nat → List JsonToken → Bytes → Option (List JsonToken)
  | _, done, [] => some done.reverse
  | 0, _, _ => none
  | fuel + 1, done, b :: rest =>
    match Char.ofNat b.toNat with
    | ' ' | '\t' | '\n' | '\r' => tokens fuel done rest
    | '[' => tokens fuel (.openArray :: done) rest
    | ']' => tokens fuel (.closeArray :: done) rest
    | '{' => tokens fuel (.openObject :: done) rest
    | '}' => tokens fuel (.closeObject :: done) rest
    | ',' => tokens fuel (.comma :: done) rest
    | ':' => tokens fuel (.colon :: done) rest
    | '"' => do
      let (text, rest) ← takeString fuel [] rest
      tokens fuel (.string text :: done) rest
    | 'n' => do tokens fuel (.scalar .null :: done) (← takeWord "ull" rest)
    | 't' => do tokens fuel (.scalar (.bool true) :: done) (← takeWord "rue" rest)
    | 'f' => do tokens fuel (.scalar (.bool false) :: done) (← takeWord "alse" rest)
    | _ => do
      let (l, rest) ← takeNumber (b :: rest)
      tokens fuel (.scalar (.number l) :: done) rest

end JsonToken

namespace RawJson

/-- An array or object that is still open, with what it holds so far, last first. An object waits
for the value of a key. -/
inductive Frame where
  | elements (done : List RawJson)
  | members (done : List (Bytes × RawJson)) (key : Bytes)

mutual

/-- Read a value inside the open arrays and objects of a stack, and then what follows it. -/
def readValue (stack : List Frame) : List JsonToken → Option RawJson
  | .openArray :: .closeArray :: rest => readAfter stack (.array []) rest
  | .openArray :: rest => readValue (.elements [] :: stack) rest
  | .openObject :: .closeObject :: rest => readAfter stack (.object []) rest
  | .openObject :: .string key :: .colon :: rest => readValue (.members [] key :: stack) rest
  | .string text :: rest => readAfter stack (.string text) rest
  | .scalar v :: rest => readAfter stack v rest
  | _ => none

/-- Put a value into the innermost open array or object, and read what follows it. -/
def readAfter (stack : List Frame) (v : RawJson) : List JsonToken → Option RawJson
  | [] => if stack.isEmpty then some v else none
  | token :: rest =>
    match stack, token with
    | .elements done :: stack, .comma => readValue (.elements (v :: done) :: stack) rest
    | .elements done :: stack, .closeArray => readAfter stack (.array (v :: done).reverse) rest
    | .members done key :: stack, .closeObject =>
      readAfter stack (.object ((key, v) :: done).reverse) rest
    | .members done key :: stack, .comma =>
      -- behind a comma an object goes on with a key
      match rest with
      | .string next :: .colon :: rest => readValue (.members ((key, v) :: done) next :: stack) rest
      | _ => none
    | _, _ => none

end

/-- Divide a text into its parts. -/
def ofBytes? (b : Bytes) : Option RawJson := do readValue [] (← JsonToken.tokens b.length [] b)

/-! ### Values with values in strings -/

/-- How deep arrays and objects of one text may nest. -/
def maxNesting : Nat := 127

/-- The key of an object that holds the text of a value instead of the value. -/
def textKey : String := "$serde_json::private::RawValue"

/-- How often such objects may stand inside one another. Each takes twice as many backslashes as
the one inside, so no text has as many. -/
def maxTexts : Nat := 64

/-- The value of a text of which every part is looked at, where arrays and objects may nest as deep
as a limit says. The text in an object of one member, whose key says so, stands for a value, which
`inText` reads. -/
def valueWith (inText : Bytes → Option Json) : Nat → RawJson → Option Json
  | limit + 1, .array elements => (elements.mapM (valueWith inText limit)).map .array
  | limit + 1, .object ((key, v) :: rest) => do
    if (← decodeText? key) = textKey then
      match v, rest with
      | .string text, [] => inText text
      | _, _ => none
    else
      let members ← ((key, v) :: rest).mapM fun (k, v) => do
        return (← decodeText? k, ← valueWith inText limit v)
      return .object members
  | _ + 1, .object [] => some (.object [])
  | _, .array _ | _, .object _ => none
  | _, v => v.toJson?

/-- The value of a text that may have values in strings inside one another as often as `texts`
says. -/
def value? : Nat → Nat → RawJson → Option Json
  | 0 => valueWith fun _ => none
  | texts + 1 => valueWith fun text => do
    value? texts maxNesting (← ofBytes? (Bytes.ofText (← decodeText? text)))

end RawJson

namespace Json

/-- Read one value from the whole of a text. -/
def ofText? (text : String) : Option Json := do RawJson.toJson? (← RawJson.ofBytes? (.ofText text))

end Json

end SceneBatch
