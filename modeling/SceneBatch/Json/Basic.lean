import SceneBatch.Number.Single

/-!
# JSON values

A JSON document as data, and its two texts: `Json.compact` without blanks and `Json.pretty` with
one member or element on each line. Members keep the order they are given in;
`Json.sortMembers` puts them in the order of their keys.
-/

namespace SceneBatch

/-- A number of a JSON text: integers of 64 bits are kept, any other number is
double-precision. -/
inductive JsonNumber where
  | integer (value : Int)
  | real (value : Float)

/-- A JSON value. -/
inductive Json where
  | null
  | bool (value : Bool)
  | number (value : JsonNumber)
  | string (value : String)
  | array (elements : List Json)
  | object (members : List (String × Json))

namespace JsonNumber

/-- The single-precision number next to a JSON number. -/
def toSingle : JsonNumber → Float32
  | .integer n => Single.ofInt n
  | .real x => x.toFloat32

/-- The fewest digits that read back, `digits · 10 ^ exponent`: positional with a point while the
point stands within sixteen places behind, or five places before, the first digit; with an
exponent otherwise. -/
def realText (ds : List Char) (exponent : Int) : List Char :=
  let point : Int := exponent + ds.length
  if 0 ≤ exponent ∧ point ≤ 16 then Decimal.positional ds exponent ++ ['.', '0']
  else if -5 < point ∧ point ≤ 16 then Decimal.positional ds exponent
  else
    let fraction := if ds.length = 1 then [] else '.' :: ds.drop 1
    ds.take 1 ++ fraction ++ 'e' :: (toString (point - 1)).toList

/-- The text of a number; what is not finite is written `null`. -/
def text : JsonNumber → String
  | .integer n => toString n
  | .real x =>
    match BinaryFormat.double.decode x.toBits.toNat with
    | .finite s m e =>
      let (num, den) := Decimal.fraction m e
      let digits :=
        if num = 0 then realText ['0'] 0
        else
          let (n, e) := Decimal.shortest .double num den
          realText (Decimal.digits n) e
      String.ofList ((if s then ['-'] else []) ++ digits)
    | _ => "null"

end JsonNumber

namespace Json

/-- A natural number. -/
def nat (n : Nat) : Json := .number (.integer n)

/-- An integer. -/
def int (n : Int) : Json := .number (.integer n)

/-- A single-precision number, widened; `null` where it is not finite. -/
def single (x : Float32) : Json :=
  if x.isFinite then .number (.real x.toFloat) else .null

/-- An optional value; `null` when absent. -/
def optional (encode : α → Json) : Option α → Json
  | some a => encode a
  | none => .null

/-- A list of values. -/
def list (encode : α → Json) (xs : List α) : Json := .array (xs.map encode)

/-- The member of an object with a given key; of several the last. -/
def member? (key : String) : Json → Option Json
  | .object members => (members.reverse.find? fun m => m.1 == key).map Prod.snd
  | _ => none

/-! ### Texts -/

/-- The escape of one character inside a string: quotes, backslashes and control characters have
one, everything else stands for itself. -/
def escapeChar (c : Char) : List Char :=
  if c = '"' then ['\\', '"']
  else if c = '\\' then ['\\', '\\']
  else if c = '\n' then ['\\', 'n']
  else if c = '\r' then ['\\', 'r']
  else if c = '\t' then ['\\', 't']
  else if c = '\x08' then ['\\', 'b']
  else if c = '\x0c' then ['\\', 'f']
  else if c.toNat < 32 then ['\\', 'u'] ++ Decimal.padZeros 4 (Nat.toDigits 16 c.toNat)
  else [c]

/-- A string in quotes. -/
def quote (s : String) : String :=
  String.ofList ('"' :: s.toList.flatMap escapeChar ++ ['"'])

mutual

/-- The text of a value without blanks, behind `front`. -/
def appendCompact (front : String) : Json → String
  | .null => front ++ "null"
  | .bool b => front ++ (if b then "true" else "false")
  | .number n => front ++ n.text
  | .string s => front ++ quote s
  | .array elements => appendElements (front ++ "[") "" elements ++ "]"
  | .object members => appendMembers (front ++ "\x7b") "" members ++ "\x7d"

/-- The elements of an array behind `front`, the first after `separator` and the others after a
comma. -/
def appendElements (front separator : String) : List Json → String
  | [] => front
  | e :: rest => appendElements (appendCompact (front ++ separator) e) "," rest

/-- The members of an object behind `front`, the first after `separator` and the others after a
comma. -/
def appendMembers (front separator : String) : List (String × Json) → String
  | [] => front
  | (k, v) :: rest =>
    appendMembers (appendCompact (front ++ separator ++ quote k ++ ":") v) "," rest

end

/-- The text of a value without blanks. -/
def compact (v : Json) : String := appendCompact "" v

mutual

/-- The text of a value with one element or member on each line, behind `front`; `indent` is the
indentation of the line the value starts on. -/
def appendPretty (front indent : String) : Json → String
  | .array [] => front ++ "[]"
  | .object [] => front ++ "\x7b\x7d"
  | .array (e :: rest) => appendLines (front ++ "[") "" indent (e :: rest) ++ "\n" ++ indent ++ "]"
  | .object (m :: rest) =>
    appendMemberLines (front ++ "\x7b") "" indent (m :: rest) ++ "\n" ++ indent ++ "\x7d"
  | v => appendCompact front v

/-- The elements of an array, each on a line of its own. -/
def appendLines (front separator indent : String) : List Json → String
  | [] => front
  | e :: rest =>
    let inner := indent ++ "  "
    appendLines (appendPretty (front ++ separator ++ "\n" ++ inner) inner e) "," indent rest

/-- The members of an object, each on a line of its own. -/
def appendMemberLines (front separator indent : String) : List (String × Json) → String
  | [] => front
  | (k, v) :: rest =>
    let inner := indent ++ "  "
    let start := front ++ separator ++ "\n" ++ inner ++ quote k ++ ": "
    appendMemberLines (appendPretty start inner v) "," indent rest

end

/-- The text of a value with two blanks of indentation for each level. -/
def pretty (v : Json) : String := appendPretty "" "" v

/-! ### Members in order -/

/-- Put a member into a list sorted by key; a member of the same key is replaced. -/
def insertMember (key : String) (value : Json) : List (String × Json) → List (String × Json)
  | [] => [(key, value)]
  | (k, v) :: rest =>
    if key < k then (key, value) :: (k, v) :: rest
    else if key = k then (key, value) :: rest
    else (k, v) :: insertMember key value rest

/-- Put members into a list sorted by key, one after the other. -/
def insertMembers (members sorted : List (String × Json)) : List (String × Json) :=
  members.foldl (fun acc m => insertMember m.1 m.2 acc) sorted

/-- An object whose members are sorted by key. -/
def sortedObject (members : List (String × Json)) : Json := .object (insertMembers members [])

mutual

/-- Sort the members of every object in a value; of two members with one key the later stays. -/
def sortMembers : Json → Json
  | .array elements => .array (sortElements elements)
  | .object members => sortedObject (sortValues members)
  | v => v

/-- Sort the members inside each element. -/
def sortElements : List Json → List Json
  | [] => []
  | e :: rest => sortMembers e :: sortElements rest

/-- Sort the members inside each member's value. -/
def sortValues : List (String × Json) → List (String × Json)
  | [] => []
  | (k, v) :: rest => (k, sortMembers v) :: sortValues rest

end

end Json

end SceneBatch
