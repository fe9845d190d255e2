/-!
# Columns

Texts brought to the width of a column, counted in characters. A text that is wider stays as it
is.
-/

namespace SceneBatch

namespace Column

/-- The blanks that a text lacks. -/
def blanks (width : Nat) (text : String) : String :=
  String.ofList (List.replicate (width - text.length) ' ')

/-- A text at the left end of its column. -/
def left (width : Nat) (text : String) : String := text ++ blanks width text

/-- A text at the right end of its column. -/
def right (width : Nat) (text : String) : String := blanks width text ++ text

end Column

end SceneBatch
