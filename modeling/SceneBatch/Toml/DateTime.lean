/-!
# Dates and times in TOML

No field of a scene or a configuration is a date, but a document may contain one under a key that
nobody asks for. The reader only tells where a well-formed date or time ends.
-/

namespace SceneBatch

namespace Toml

/-- Read a number of exactly `count` digits, at least `low` and at most `high`. -/
def takeNumber (count low high : Nat) (cs : List Char) : Option (Nat × List Char) :=
  let ds := cs.take count
  let n := ds.foldl (fun n c => n * 10 + (c.toNat - '0'.toNat)) 0
  if ds.length = count ∧ ds.all Char.isDigit ∧ low ≤ n ∧ n ≤ high then some (n, cs.drop count)
  else none

/-- Read one given character. -/
def takeChar (c : Char) : List Char → Option (List Char)
  | d :: rest => if c = d then some rest else none
  | [] => none

/-- The number of days of a month. -/
def daysIn (year month : Nat) : Nat :=
  if month = 2 then
    if year % 4 = 0 ∧ (year % 100 ≠ 0 ∨ year % 400 = 0) then 29 else 28
  else if month ∈ [4, 6, 9, 11] then 30 else 31

/-- Read a date: year, month and day. -/
def takeDate (cs : List Char) : Option (List Char) := do
  let (year, cs) ← takeNumber 4 0 9999 cs
  let (month, cs) ← takeNumber 2 1 12 (← takeChar '-' cs)
  let (_, cs) ← takeNumber 2 1 (daysIn year month) (← takeChar '-' cs)
  some cs

/-- Read a time of day: hour, minute, second, and any fraction of a second. -/
def takeTime (cs : List Char) : Option (List Char) := do
  let (_, cs) ← takeNumber 2 0 23 cs
  let (_, cs) ← takeNumber 2 0 59 (← takeChar ':' cs)
  let (_, cs) ← takeNumber 2 0 60 (← takeChar ':' cs)
  match cs with
  | '.' :: d :: rest => if d.isDigit then some (rest.dropWhile Char.isDigit) else some cs
  | _ => some cs

/-- Read an offset from universal time. -/
def takeOffset (cs : List Char) : Option (List Char) :=
  match cs with
  | 'Z' :: rest | 'z' :: rest => some rest
  | '+' :: rest | '-' :: rest => do
    let (_, cs) ← takeNumber 2 0 23 rest
    let (_, cs) ← takeNumber 2 0 59 (← takeChar ':' cs)
    some cs
  | _ => none

/-- Read a date, a time, or both, with an offset only behind both. What is left is returned. -/
def takeDateTime (cs : List Char) : Option (List Char) :=
  match takeDate cs with
  | some (d :: rest) =>
    if d = 'T' ∨ d = 't' ∨ d = ' ' then
      match takeTime rest with
      | some rest => some ((takeOffset rest).getD rest)
      | none => some (d :: rest)
    else some (d :: rest)
  | some [] => some []
  | none => takeTime cs

end Toml

end SceneBatch
