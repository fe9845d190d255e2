import SceneBatch.Toml.Value

/-!
# Tables under construction

A TOML document builds its tables piece by piece: `[a.b]` opens a table and, on the way, tables
that were only implied; `a.b = 1` adds to tables made of dotted keys; `[[a]]` appends to an array
of tables. A `Draft` records how each table came about, because that decides which of these may
add to it later.
-/

namespace SceneBatch

namespace Toml

/-- Something that stands under a key: a value, a table, or an array of tables. A table is
`implied` until its own header occurs, and `dotted` when dotted keys made it. -/
inductive Item where
  | value (v : TomlValue)
  | table (implied dotted : Bool) (items : List (String × Item))
  | tables (elements : List (List (String × Item)))

/-- A table under construction. -/
structure Draft where
  implied : Bool := false
  dotted : Bool := false
  items : List (String × Item) := []

namespace Draft

/-- The table as an item. -/
def item (d : Draft) : Item := .table d.implied d.dotted d.items

/-- Replace what stands under a key, or add it at the end. -/
def set (d : Draft) (key : String) (item : Item) : Draft :=
  if d.items.any (·.1 == key) then
    { d with items := d.items.map fun e => if e.1 == key then (key, item) else e }
  else { d with items := d.items ++ [(key, item)] }

/-- Change the table at a path, and open implied tables where the path leads nowhere. The path
goes through the last table of an array of tables. With `dotted` the path is that of a dotted
key, which must not pass through a table that has a header of its own. -/
def modifyAt (dotted : Bool) (change : Draft → Option (Draft × β)) :
    List String → Draft → Option (Draft × β)
  | [], d => change d
  | key :: path, d =>
    match d.items.lookup key with
    | none => do
      let (inner, b) ← modifyAt dotted change path ⟨true, dotted, []⟩
      some (d.set key inner.item, b)
    | some (.value _) => none
    | some (.table implied wasDotted items) =>
      -- a table with a header takes no entries from elsewhere
      if dotted ∧ ¬implied then none
      else do
        let (inner, b) ← modifyAt dotted change path ⟨implied, wasDotted, items⟩
        some (d.set key inner.item, b)
    | some (.tables elements) =>
      match elements.getLast? with
      | none => none
      | some last => do
        let (inner, b) ← modifyAt dotted change path ⟨false, false, last⟩
        some (d.set key (.tables (elements.dropLast ++ [inner.items])), b)

/-- Enter a value under a dotted key. A key is entered once, and dotted keys do not add to a
table that a header implied. -/
def enter (d : Draft) (path : List String) (key : String) (v : TomlValue) : Option Draft :=
  Prod.fst <$> d.modifyAt true
    (fun t =>
      if t.dotted = path.isEmpty ∨ t.items.any (·.1 == key) then none
      else some (t.set key (.value v), ()))
    path

/-- Make room for the table of a header: a new table, or one that other headers implied, which is
taken out of its parent. -/
def openTable (d : Draft) (path : List String) (key : String) : Option (Draft × Draft) :=
  d.modifyAt false
    (fun parent =>
      match parent.items.lookup key with
      | none => some (parent, ⟨false, false, []⟩)
      | some (.table true false items) =>
        some ({ parent with items := parent.items.filter (·.1 != key) }, ⟨false, false, items⟩)
      | some _ => none)
    path

/-- Make room for one more table of an array of tables. -/
def openElement (d : Draft) (path : List String) (key : String) : Option (Draft × Draft) :=
  d.modifyAt false
    (fun parent =>
      match parent.items.lookup key with
      | none | some (.tables _) => some (parent, ⟨false, false, []⟩)
      | some _ => none)
    path

/-- Put a finished table under its key, as a table or as the last of an array of tables. -/
def place (d : Draft) (path : List String) (key : String) (isElement : Bool) (table : Draft) :
    Option Draft :=
  Prod.fst <$> d.modifyAt false
    (fun parent =>
      match parent.items.lookup key, isElement with
      | none, false => some (parent.set key table.item, ())
      | none, true => some (parent.set key (.tables [table.items]), ())
      | some (.tables elements), true =>
        some (parent.set key (.tables (elements ++ [table.items])), ())
      | _, _ => none)
    path

end Draft

mutual

/-- The value of a finished item. -/
def Item.finish : Item → TomlValue
  | .value v => v
  | .table _ _ items => .table (finishItems items)
  | .tables elements => .array (finishTables elements)

/-- The entries of a finished table. -/
def finishItems : List (String × Item) → List (String × TomlValue)
  | [] => []
  | (k, i) :: rest => (k, i.finish) :: finishItems rest

/-- The elements of a finished array of tables. -/
def finishTables : List (List (String × Item)) → List TomlValue
  | [] => []
  | t :: rest => .table (finishItems t) :: finishTables rest

end

/-- One line of a document that is not blank. -/
inductive Line where
  | header (path : List String) (key : String)
  | arrayHeader (path : List String) (key : String)
  | entry (path : List String) (key : String) (value : TomlValue)

/-- A document under construction: what stands in front of the last header, the place that header
names, and the entries behind it. -/
structure Outline where
  root : Draft := {}
  place : Option (List String × String × Bool) := none
  table : Draft := {}

namespace Outline

/-- Put the table of the last header in its place. Without a header the entries are the root's. -/
def close (o : Outline) : Option Draft :=
  match o.place with
  | none => some o.table
  | some (path, key, isElement) => o.root.place path key isElement o.table

/-- Add one line. -/
def add (o : Outline) : Line → Option Outline
  | .entry path key v => do some { o with table := ← o.table.enter path key v }
  | .header path key => do
    let (root, table) ← (← o.close).openTable path key
    some ⟨root, some (path, key, false), table⟩
  | .arrayHeader path key => do
    let (root, table) ← (← o.close).openElement path key
    some ⟨root, some (path, key, true), table⟩

end Outline

/-- The root table of a document of the given lines, unless one of them contradicts those before
it. -/
def ofLines? (lines : List Line) : Option TomlValue := do
  let o ← lines.foldlM Outline.add {}
  some (.table (finishItems (← o.close).items))

/-- The value of an inline table with the given entries. -/
def ofInlineEntries? (entries : List (List String × String × TomlValue)) : Option TomlValue := do
  let d ← entries.foldlM (fun (d : Draft) (path, key, v) => d.enter path key v) {}
  some (.table (finishItems d.items))

end Toml

end SceneBatch
