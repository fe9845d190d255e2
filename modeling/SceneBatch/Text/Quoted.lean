import SceneBatch.Text.Joining
import SceneBatch.Text.Unseen

/-!
# Quoted text

Names and paths in debug lines stand in double quotes. Quotes and backslashes get a backslash in
front; characters that cannot be seen, or that would join the one before, are written by their
numbers.
-/

namespace SceneBatch

namespace Quoted

/-- Whether a character is in one of some runs. -/
def isIn (runs : List (Nat × Nat)) (c : Char) : Bool :=
  runs.any fun (first, last) => first ≤ c.toNat && c.toNat ≤ last

/-- Whether a character can be seen for itself. -/
def isVisible (c : Char) : Bool := !isIn Unseen.runs c && !isIn Joining.runs c

/-- The letters that stand behind a backslash for certain characters. -/
def letters : List (Char × Char) :=
  [('"', '"'), ('\\', '\\'), ('\x00', '0'), ('\t', 't'), ('\n', 'n'), ('\r', 'r')]

/-- A character inside quotes. -/
def escape (c : Char) : List Char :=
  match letters.lookup c with
  | some letter => ['\\', letter]
  | none =>
    if isVisible c then [c]
    else "\\u\x7b".toList ++ Nat.toDigits 16 c.toNat ++ ['\x7d']

/-- A text in quotes. -/
def quote (s : String) : String := String.ofList ('"' :: s.toList.flatMap escape ++ ['"'])

end Quoted

end SceneBatch
