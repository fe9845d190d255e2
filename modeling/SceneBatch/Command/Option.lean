import SceneBatch.Number.Single

/-!
# Options of a command line

A command takes options, which stand anywhere, and one operand. A token that starts with a hyphen
is an option and never the value of the option before it; behind two hyphens alone every token is
an operand. Tokens are read in order, and the first one that is not understood ends the reading.
-/

namespace SceneBatch

/-- What an option is for. An option with a value says which values it takes. -/
inductive OptionKind where
  | help
  | version
  | switch
  | value (accepts : String → Bool)

/-- An option that a command takes. -/
structure OptionRule where
  name : String
  letter : Option Char := none
  kind : OptionKind
  about : String
  /-- The value of an option that is not given. -/
  default : Option String := none

/-- Why the reading of a command line ends early. -/
inductive Halt where
  | help
  | version
  | refused
  deriving DecidableEq, Repr

/-- What a token of a command line looks like. -/
inductive Token where
  | separator
  | long (name : String) (value : Option String)
  | short (letters : List Char)
  | word (text : String)
  deriving DecidableEq, Repr

namespace Token

/-- Tell tokens apart. A single hyphen is a word. -/
def ofText (text : String) : Token :=
  match text.toList with
  | ['-', '-'] => separator
  | '-' :: '-' :: rest =>
    match rest.span (· ≠ '=') with
    | (name, _ :: value) => long (String.ofList name) (some (String.ofList value))
    | (name, []) => long (String.ofList name) none
  | '-' :: c :: rest => short (c :: rest)
  | _ => word text

end Token

/-- What was read so far: the options that were given with their values, the operand, the option
that waits for its value, and whether only operands can follow. -/
structure Reading where
  given : List (String × String) := []
  operand : Option String := none
  pending : Option OptionRule := none
  wordsOnly : Bool := false

namespace Reading

variable (r : Reading)

/-- Take an operand. There is only one. -/
def addWord (w : String) : Except Halt Reading :=
  if r.operand.isSome then .error .refused else .ok { r with operand := some w }

/-- Take an option that was given, with its value. No option is given twice. -/
def give (rule : OptionRule) (value : String) : Except Halt Reading :=
  if r.given.any (·.1 = rule.name) then .error .refused
  else .ok { r with given := r.given ++ [(rule.name, value)], pending := none }

/-- Take an option with the value that is attached to it, if there is one. -/
def meet (rule : OptionRule) (attached : Option String) : Except Halt Reading :=
  match rule.kind, attached with
  | .help, none => .error .help
  | .version, none => .error .version
  | .switch, none => r.give rule ""
  | .value _, none => .ok { r with pending := some rule }
  | .value accepts, some v => if accepts v then r.give rule v else .error .refused
  | _, some _ => .error .refused

/-- Take options that are written as letters. What follows a letter with a value is the value,
behind an equals sign or not. -/
def meetLetters (rules : List OptionRule) (r : Reading) : List Char → Except Halt Reading
  | [] => .ok r
  | c :: rest =>
    match rules.find? fun rule => rule.letter = some c with
    | none => .error .refused
    | some rule =>
      match rule.kind, rest with
      | .value _, '=' :: v => r.meet rule (some (String.ofList v))
      | .value _, c :: v => r.meet rule (some (String.ofList (c :: v)))
      | _, _ => do meetLetters rules (← r.meet rule none) rest

/-- Read one more token. -/
def next (rules : List OptionRule) (r : Reading) (text : String) : Except Halt Reading :=
  if r.wordsOnly then r.addWord text
  else
    match Token.ofText text, r.pending with
    | .word w, some rule => r.meet rule (some w)
    | .word w, none => r.addWord w
    | _, some _ => .error .refused
    | .separator, none => .ok { r with wordsOnly := true }
    | .long name value, none =>
      match rules.find? fun rule => rule.name = name with
      | some rule => r.meet rule value
      | none => .error .refused
    | .short letters, none => meetLetters rules r letters

/-- Whether an option was given. -/
def has (name : String) : Bool := r.given.any (·.1 = name)

/-- The value of an option, or its default. -/
def value? (rules : List OptionRule) (name : String) : Option String :=
  (r.given.lookup name).or do (← rules.find? fun rule => rule.name = name).default

end Reading

/-! ### Values -/

/-- A number of 32 bits in decimal digits, with an optional sign. -/
def natural32? (text : String) : Option UInt32 :=
  let (negative, ds) := Single.takeSign text.toList
  let n := Single.digitsValue ds
  if ds = [] ∨ ¬ds.all Char.isDigit ∨ (negative ∧ n ≠ 0) ∨ UInt32.size ≤ n then none
  else some (UInt32.ofNat n)

end SceneBatch
