import SceneBatch.Text.Hex
import SceneBatch.Toml.Draft
import SceneBatch.Toml.DateTime

/-!
# Reading TOML

`Toml.ofText?` reads a TOML 1.0 document. Reading goes in two steps: the text is cut into lines
(headers and entries, with every value already read), and the lines build the root table. A text
is refused as a whole; the place of a fault is not kept.
-/

namespace SceneBatch

namespace Toml

/-- How deep arrays and inline tables may nest, and how many parts a key may have. -/
def maxNesting : Nat := 79

/-! ### Characters -/

/-- Blanks within a line. -/
def isInlineBlank (c : Char) : Bool := c = ' ' ∨ c = '\t'

/-- Characters that may stand in a comment or in a string: no control characters but the
tabulator. -/
def isPlain (c : Char) : Bool := c = '\t' ∨ (32 ≤ c.toNat ∧ c.toNat ≠ 127)

/-- Drop the blanks in front. -/
def skipInline (cs : List Char) : List Char := cs.dropWhile isInlineBlank

/-- Take a line break off the front. -/
def takeBreak : List Char → Option (List Char)
  | '\n' :: rest => some rest
  | '\r' :: '\n' :: rest => some rest
  | _ => none

/-- Drop blanks and then a comment, up to the line break or the end. -/
def skipComment (cs : List Char) : List Char :=
  match skipInline cs with
  | '#' :: rest => rest.dropWhile isPlain
  | rest => rest

/-- Drop blanks, comments and line breaks. -/
def skipAll : Nat → List Char → List Char
  | 0, cs => cs
  | fuel + 1, cs =>
    let rest := skipComment cs
    match takeBreak rest with
    | some rest => skipAll fuel rest
    | none => rest

/-! ### Strings -/

/-- Read `count` hexadecimal digits as a character. -/
def takeCodePoint (count : Nat) (cs : List Char) : Option (Char × List Char) := do
  let ds ← (cs.take count).mapM Hex.value?
  let n := ds.foldl (fun n d => n * 16 + d) 0
  if ds.length = count ∧ n.isValidChar then some (Char.ofNat n, cs.drop count) else none

/-- Read the rest of an escape behind the backslash. -/
def takeEscape : List Char → Option (Char × List Char)
  | 'b' :: rest => some ('\x08', rest)
  | 't' :: rest => some ('\t', rest)
  | 'n' :: rest => some ('\n', rest)
  | 'f' :: rest => some ('\x0c', rest)
  | 'r' :: rest => some ('\r', rest)
  | '"' :: rest => some ('"', rest)
  | '\\' :: rest => some ('\\', rest)
  | 'u' :: rest => takeCodePoint 4 rest
  | 'U' :: rest => takeCodePoint 8 rest
  | _ => none

/-- Read a basic string behind its opening quote; `done` holds the characters already read, last
first. -/
def takeBasic : Nat → List Char → List Char → Option (String × List Char)
  | 0, _, _ => none
  | fuel + 1, done, cs =>
    match cs with
    | '"' :: rest => some (String.ofList done.reverse, rest)
    | '\\' :: rest => do
      let (c, rest) ← takeEscape rest
      takeBasic fuel (c :: done) rest
    | c :: rest => if isPlain c then takeBasic fuel (c :: done) rest else none
    | [] => none

/-- Read a literal string behind its opening quote. -/
def takeLiteral (cs : List Char) : Option (String × List Char) :=
  let inside := cs.takeWhile fun c => c ≠ '\'' ∧ isPlain c
  match cs.drop inside.length with
  | '\'' :: rest => some (String.ofList inside, rest)
  | _ => none

/-- What a backslash in front of a line break swallows: blanks, the break, and all blanks and
breaks behind it. A carriage return belongs to a break. -/
def takeFoldedBreak (cs : List Char) : Option (List Char) := do
  let rest ← takeBreak (skipInline cs)
  let blanks := rest.takeWhile fun c => isInlineBlank c ∨ c = '\n' ∨ c = '\r'
  if loneReturn blanks then none else some (rest.drop blanks.length)
where
  /-- Whether a carriage return stands without its line feed. -/
  loneReturn : List Char → Bool
    | [] => false
    | '\r' :: '\n' :: rest => loneReturn rest
    | c :: rest => c = '\r' || loneReturn rest

/-- Read a string over several lines up to three quotes of the given kind, of which up to two more
belong to the string. Line breaks are line feeds; escapes count only between double quotes. -/
def takeMultiline (quote : Char) : Nat → List Char → List Char → Option (String × List Char)
  | 0, _, _ => none
  | fuel + 1, done, cs =>
    match cs with
    | [] => none
    | c :: rest =>
      if c = quote then
        -- three quotes end the string, and up to two in front of them belong to it
        let run := min 5 (cs.takeWhile (· = quote)).length
        if run < 3 then takeMultiline quote fuel (List.replicate run quote ++ done) (cs.drop run)
        else some (String.ofList (List.replicate (run - 3) quote ++ done).reverse, cs.drop run)
      else if c = '\\' ∧ quote = '"' then
        -- a backslash at the end of a line takes the blanks behind it along
        match takeFoldedBreak rest with
        | some rest => takeMultiline quote fuel done rest
        | none => do
          let (c, rest) ← takeEscape rest
          takeMultiline quote fuel (c :: done) rest
      else
        match takeBreak cs with
        | some rest => takeMultiline quote fuel ('\n' :: done) rest
        | none => if isPlain c then takeMultiline quote fuel (c :: done) rest else none

/-- Drop the line break right behind an opening delimiter. -/
def dropFirstBreak (cs : List Char) : List Char := (takeBreak cs).getD cs

/-- Read a string of any of the four kinds. -/
def takeString : List Char → Option (String × List Char)
  | '"' :: '"' :: '"' :: rest => takeMultiline '"' (rest.length + 1) [] (dropFirstBreak rest)
  | '\'' :: '\'' :: '\'' :: rest => takeMultiline '\'' (rest.length + 1) [] (dropFirstBreak rest)
  | '"' :: rest => takeBasic (rest.length + 1) [] rest
  | '\'' :: rest => takeLiteral rest
  | _ => none

/-! ### Keys -/

/-- Characters of a key without quotes. -/
def isBareKeyChar (c : Char) : Bool := c.isAlphanum ∨ c = '_' ∨ c = '-'

/-- Read one part of a key: bare, or a string of one line. -/
def takeSimpleKey (cs : List Char) : Option (String × List Char) :=
  match cs with
  | '"' :: rest => takeBasic (rest.length + 1) [] rest
  | '\'' :: rest => takeLiteral rest
  | _ =>
    let word := cs.takeWhile isBareKeyChar
    if word = [] then none else some (String.ofList word, cs.drop word.length)

/-- Read a key of at most `count` parts with dots between them. The last part comes apart from those
before it. -/
def takeParts : (count : Nat) → List Char → Option (List String × String × List Char)
  | 0, _ => none
  | count + 1, cs => do
    let (first, rest) ← takeSimpleKey (skipInline cs)
    match skipInline rest with
    | '.' :: rest => do
      let (path, key, rest) ← takeParts count rest
      some (first :: path, key, rest)
    | rest => some ([], first, rest)

/-- Read a key. -/
def takeKey (cs : List Char) : Option (List String × String × List Char) := takeParts maxNesting cs

/-! ### Numbers -/

/-- Whether underscores stand only between two digits. -/
def underscoresBetween : List Char → Bool
  | [] => false
  | [c] => c ≠ '_'
  | '_' :: _ => false
  | _ :: '_' :: rest => underscoresBetween rest
  | _ :: rest => underscoresBetween rest

/-- Read digits of a class with single underscores between them. -/
def takeDigits (isDigit : Char → Bool) (cs : List Char) : Option (List Char × List Char) :=
  let run := cs.takeWhile fun c => isDigit c ∨ c = '_'
  if underscoresBetween run then some (run.filter (· ≠ '_'), cs.drop run.length) else none

/-- Integers have 64 bits. -/
def integerInRange? (n : Int) : Option TomlValue :=
  if -0x8000000000000000 ≤ n ∧ n < 0x8000000000000000 then some (.integer n) else none

/-- Read an integer in another base than ten, behind its two-letter mark. -/
def takeInBase (base : Nat) (cs : List Char) : Option (TomlValue × List Char) := do
  let (ds, rest) ← takeDigits (fun c => (Hex.value? c).any (· < base)) cs
  let n := (ds.filterMap Hex.value?).foldl (fun n d => n * base + d) 0
  some (← integerInRange? n, rest)

/-- The value of a decimal literal with a point or an exponent. A positive literal must not
overflow. -/
def floatOf? (negative : Bool) (significand : Nat) (exponent : Int) : Option TomlValue :=
  let pattern := BinaryFormat.double.ofDecimal negative significand exponent
  if pattern = BinaryFormat.double.infinityBits then none
  else some (.float (Float.ofBits (UInt64.ofNat pattern)))

/-- Read the exponent of a literal, if there is one. -/
def takeExponent : List Char → Option (Option Int × List Char)
  | c :: rest =>
    if c = 'e' ∨ c = 'E' then do
      let (negative, rest) := Single.takeSign rest
      let (ds, rest) ← takeDigits Char.isDigit rest
      let n : Int := Single.digitsValue ds
      some (some (if negative then -n else n), rest)
    else some (none, c :: rest)
  | [] => some (none, [])

/-- Read a decimal integer or float without its sign: no leading zeros, digits on both sides of a
point. -/
def takeDecimal (negative : Bool) (cs : List Char) : Option (TomlValue × List Char) := do
  let (whole, rest) ← takeDigits Char.isDigit cs
  if whole.head? = some '0' ∧ 1 < whole.length then none
  else
    let (places, rest) ← match rest with
      | '.' :: r => (takeDigits Char.isDigit r).map fun (ds, r) => (some ds, r)
      | r => some (none, r)
    let (exponent, rest) ← takeExponent rest
    -- without a point and an exponent it is an integer
    if places.isNone ∧ exponent.isNone then
      let n : Int := Single.digitsValue whole
      some (← integerInRange? (if negative then -n else n), rest)
    else
      let ds := whole ++ places.getD []
      let v ← floatOf? negative (Single.digitsValue ds)
        (exponent.getD 0 - (places.getD []).length)
      some (v, rest)

/-- A special float with its sign. -/
def specialFloat (negative : Bool) (x : Float) : TomlValue := .float (if negative then -x else x)

/-- Read a number. -/
def takeNumeric (cs : List Char) : Option (TomlValue × List Char) :=
  match cs with
  | '0' :: 'x' :: rest => takeInBase 16 rest
  | '0' :: 'o' :: rest => takeInBase 8 rest
  | '0' :: 'b' :: rest => takeInBase 2 rest
  | _ =>
    let (negative, cs) := Single.takeSign cs
    match cs with
    | 'i' :: 'n' :: 'f' :: rest => some (specialFloat negative (1.0 / 0.0), rest)
    | 'n' :: 'a' :: 'n' :: rest => some (specialFloat negative (0.0 / 0.0), rest)
    | _ => takeDecimal negative cs

/-! ### Values -/

mutual

/-- Read a value; `depth` says how many more arrays or inline tables may open. -/
def takeValue : Nat → Nat → List Char → Option (TomlValue × List Char)
  | 0, _, _ => none
  | fuel + 1, depth, cs =>
    match cs with
    | '"' :: _ | '\'' :: _ => do
      let (s, rest) ← takeString cs
      some (.string s, rest)
    | '[' :: rest => if depth = 0 then none else takeElements fuel (depth - 1) [] rest
    | '{' :: rest =>
      if depth = 0 then none
      else
        match skipInline rest with
        | '}' :: rest => some (.table [], rest)
        | rest => takeInlineEntries fuel (depth - 1) [] rest
    | 't' :: 'r' :: 'u' :: 'e' :: rest => some (.boolean true, rest)
    | 'f' :: 'a' :: 'l' :: 's' :: 'e' :: rest => some (.boolean false, rest)
    | _ =>
      -- dates begin like numbers, so they are looked for first
      match takeDateTime cs with
      | some rest => some (.dateTime, rest)
      | none => takeNumeric cs

/-- Read the elements of an array up to its closing bracket. Line breaks and comments may stand
anywhere between them, and a comma behind the last. -/
def takeElements : Nat → Nat → List TomlValue → List Char → Option (TomlValue × List Char)
  | 0, _, _, _ => none
  | fuel + 1, depth, done, cs =>
    match skipAll cs.length cs with
    | ']' :: rest => some (.array done.reverse, rest)
    | cs => do
      let (v, rest) ← takeValue fuel depth cs
      match skipAll rest.length rest with
      | ',' :: rest => takeElements fuel depth (v :: done) rest
      | ']' :: rest => some (.array (v :: done).reverse, rest)
      | _ => none

/-- Read the entries of an inline table up to its closing brace. -/
def takeInlineEntries :
    Nat → Nat → List (List String × String × TomlValue) → List Char →
      Option (TomlValue × List Char)
  | 0, _, _, _ => none
  | fuel + 1, depth, done, cs => do
    let (path, key, rest) ← takeKey cs
    match rest with
    | '=' :: rest => do
      let (v, rest) ← takeValue fuel depth (skipInline rest)
      let done := (path, key, v) :: done
      match skipInline rest with
      -- unlike in arrays, a key has to follow the comma
      | ',' :: rest => takeInlineEntries fuel depth done rest
      | '}' :: rest => do some (← ofInlineEntries? done.reverse, rest)
      | _ => none
    | _ => none

end

/-! ### Documents -/

/-- Read a header or an entry. -/
def takeLine (cs : List Char) : Option (Line × List Char) :=
  match cs with
  | '[' :: '[' :: rest => do
    let (path, key, rest) ← takeKey rest
    match rest with
    | ']' :: ']' :: rest => some (.arrayHeader path key, rest)
    | _ => none
  | '[' :: rest => do
    let (path, key, rest) ← takeKey rest
    match rest with
    | ']' :: rest => some (.header path key, rest)
    | _ => none
  | _ => do
    let (path, key, rest) ← takeKey cs
    match rest with
    | '=' :: rest => do
      -- no character takes more than two steps, so this is enough
      let (v, rest) ← takeValue (2 * rest.length + 2) maxNesting (skipInline rest)
      some (.entry path key v, rest)
    | _ => none

/-- Read all lines; `done` holds those already read, last first. -/
def takeLines : Nat → List Line → List Char → Option (List Line)
  | 0, _, _ => none
  | fuel + 1, done, cs =>
    match skipAll cs.length cs with
    | [] => some done.reverse
    | cs => do
      let (line, rest) ← takeLine (skipInline cs)
      match skipComment rest with
      | [] => some (line :: done).reverse
      | rest => do takeLines fuel (line :: done) (← takeBreak rest)

/-- Read a document. A byte-order mark in front of it does not count. -/
def ofText? (text : String) : Option TomlValue := do
  let cs := match text.toList with
    | '\uFEFF' :: rest => rest
    | cs => cs
  ofLines? (← takeLines (cs.length + 1) [] cs)

end Toml

end SceneBatch
