/-!
# Names of images

A texture is known by the name of its image file without the extension. A file whose name ends in
`_baseColor` in front of the extension holds a base color. Both rules look at the last segment of
the name only, and search it from its end.
-/

namespace SceneBatch

namespace ImageName

/-- Split a name behind its last slash: the directory, slash included, and the last segment. -/
def splitSegment (cs : List Char) : List Char × List Char :=
  let (segment, front) := cs.reverse.span (· ≠ '/')
  (front.reverse, segment.reverse)

/-- A segment without its last dot and what follows; the segment itself if it has no dot. -/
def stem (segment : List Char) : List Char :=
  match segment.reverse.span (· ≠ '.') with
  | (_, _ :: front) => front.reverse
  | (_, []) => segment

/-- A name without the extension of its last segment. -/
def stripExtensionChars (cs : List Char) : List Char :=
  let (directory, segment) := splitSegment cs
  directory ++ stem segment

/-- Whether a segment's last underscore is followed by `baseColor`. -/
def endsInBaseColor (segment : List Char) : Bool :=
  match segment.reverse.span (· ≠ '_') with
  | (word, _ :: _) => word.reverse == "baseColor".toList
  | (_, []) => false

/-- Whether a name follows the naming of base colors. -/
def isBaseColorChars (cs : List Char) : Bool :=
  endsInBaseColor (splitSegment (stripExtensionChars cs)).2

/-- A name without the extension of its last segment. -/
def stripExtension (name : String) : String := String.ofList (stripExtensionChars name.toList)

/-- Whether a name follows the naming of base colors. -/
def isBaseColor (name : String) : Bool := isBaseColorChars name.toList

end ImageName

end SceneBatch
