import SceneBatch.Proofs.ListLemmas
import SceneBatch.Proofs.Traverse
import SceneBatch.Toml.Reader

/-!
# Keys of tables

A key stands once in a table, however the lines of a document built it and however deep it is: a
table under construction has distinct keys (`Toml.Draft.IsProper`), and every way to change it keeps
that, so what a document says is proper (`Toml.isProper_of_ofText?`). Integers are in the range of
64 bits.
-/

namespace SceneBatch

/-- No table within a value has a key twice, and integers have 64 bits. -/
inductive TomlValue.IsProper : TomlValue → Prop
  | string (s : String) : IsProper (.string s)
  | integer {n : Int} (hlower : -0x8000000000000000 ≤ n) (hupper : n < 0x8000000000000000) :
      IsProper (.integer n)
  | float (x : Float) : IsProper (.float x)
  | boolean (b : Bool) : IsProper (.boolean b)
  | dateTime : IsProper .dateTime
  | array {elements : List TomlValue} (h : ∀ v ∈ elements, IsProper v) : IsProper (.array elements)
  | table {entries : List (String × TomlValue)} (hkeys : (entries.map Prod.fst).Nodup)
      (h : ∀ e ∈ entries, IsProper e.2) : IsProper (.table entries)

namespace Toml

/-- No table within an item has a key twice, and its values are proper. -/
inductive Item.IsProper : Item → Prop
  | value {v : TomlValue} (h : v.IsProper) : IsProper (.value v)
  | table {implied dotted : Bool} {items : List (String × Item)}
      (hkeys : (items.map Prod.fst).Nodup) (h : ∀ e ∈ items, IsProper e.2) :
      IsProper (.table implied dotted items)
  | tables {elements : List (List (String × Item))}
      (hkeys : ∀ items ∈ elements, (items.map Prod.fst).Nodup)
      (h : ∀ items ∈ elements, ∀ e ∈ items, IsProper e.2) : IsProper (.tables elements)

/-! ### Tables under construction -/

namespace Draft

/-- A table under construction has distinct keys, and what stands under them is proper. -/
structure IsProper (d : Draft) : Prop where
  keys : (d.items.map Prod.fst).Nodup
  items : ∀ e ∈ d.items, e.2.IsProper

theorem isProper_nil (implied dotted : Bool) : IsProper ⟨implied, dotted, []⟩ :=
  ⟨List.nodup_nil, fun _ he => by cases he⟩

theorem isProper_table_iff {implied dotted : Bool} {items : List (String × Item)} :
    (Item.table implied dotted items).IsProper ↔ IsProper ⟨implied, dotted, items⟩ := by
  constructor
  · intro h
    cases h with
    | table hkeys hitems => exact ⟨hkeys, hitems⟩
  · exact fun h => .table h.keys h.items

theorem isProper_tables_iff {elements : List (List (String × Item))} :
    (Item.tables elements).IsProper ↔ ∀ items ∈ elements, IsProper ⟨false, false, items⟩ := by
  constructor
  · intro h items hmem
    cases h with
    | tables hkeys hitems => exact ⟨hkeys items hmem, hitems items hmem⟩
  · exact fun h => .tables (fun items hmem => (h items hmem).keys) fun items hmem =>
      (h items hmem).items

variable {d : Draft} {key : String} {item : Item}

theorem IsProper.of_lookup (h : d.IsProper) (hitem : d.items.lookup key = some item) :
    item.IsProper :=
  h.items (key, item) ((lookup_eq_some_iff_mem h.keys).mp hitem)

theorem IsProper.filter (h : d.IsProper) (keep : String × Item → Bool) :
    IsProper { d with items := d.items.filter keep } where
  keys := h.keys.sublist (List.filter_sublist.map Prod.fst)
  items e he := h.items e (List.mem_filter.mp he).1

theorem IsProper.set (h : d.IsProper) (key : String) (hitem : item.IsProper) :
    (d.set key item).IsProper := by
  rw [Draft.set]
  split
  · -- the key is known: the keys stay, and only its item changes
    have hkeys : (d.items.map fun e => if e.1 == key then (key, item) else e).map Prod.fst =
        d.items.map Prod.fst := by
      rw [List.map_map]
      apply List.map_congr_left
      intro e _
      by_cases he : e.1 = key
      · simp [he]
      · simp [he]
    refine ⟨hkeys ▸ h.keys, ?_⟩
    intro e he
    obtain ⟨e', he', rfl⟩ := List.mem_map.mp he
    split
    · exact hitem
    · exact h.items e' he'
  · next hnew =>
    -- the key is new and goes behind the others
    have hnew' : key ∉ d.items.map Prod.fst := by
      intro hmem
      obtain ⟨e, he, rfl⟩ := List.mem_map.mp hmem
      exact hnew (List.any_eq_true.mpr ⟨e, he, beq_self_eq_true _⟩)
    refine ⟨?_, ?_⟩
    · rw [List.map_append, List.map_singleton, ← List.concat_eq_append]
      exact h.keys.concat hnew'
    · intro e he
      rcases List.mem_append.mp he with he | he
      · exact h.items e he
      · rw [List.mem_singleton.mp he]
        exact hitem

/-- Changing a table that a path leads to changes nothing that a proper table must not have, if the
change itself does not. Tables that are opened on the way have no keys yet. -/
theorem IsProper.modifyAt {β : Type} {dotted : Bool} {change : Draft → Option (Draft × β)}
    {Q : β → Prop}
    (hchange : ∀ t t' b, t.IsProper → change t = some (t', b) → t'.IsProper ∧ Q b)
    {path : List String} {d' : Draft} {b : β} (h : d.IsProper)
    (hmodify : d.modifyAt dotted change path = some (d', b)) : d'.IsProper ∧ Q b := by
  -- on the path: the table that its first key leads to is changed by induction and put back
  induction path generalizing d d' b with
  | nil => exact hchange d d' b h hmodify
  | cons key path ih =>
      rw [Draft.modifyAt] at hmodify
      split at hmodify
      · -- nothing stands under the key, so an empty table is opened
        obtain ⟨⟨inner, b'⟩, hinner, heq⟩ := Option.bind_eq_some_iff.mp hmodify
        obtain ⟨hproper, hb⟩ := ih (isProper_nil true dotted) hinner
        cases heq
        exact ⟨h.set key (isProper_table_iff.mpr hproper), hb⟩
      · -- a value stands there and cannot be entered
        cases hmodify
      · next implied wasDotted items hitem =>
        -- a table
        split at hmodify
        · cases hmodify
        · obtain ⟨⟨inner, b'⟩, hinner, heq⟩ := Option.bind_eq_some_iff.mp hmodify
          obtain ⟨hproper, hb⟩ := ih (isProper_table_iff.mp (h.of_lookup hitem)) hinner
          cases heq
          exact ⟨h.set key (isProper_table_iff.mpr hproper), hb⟩
      · next elements hitem =>
        -- an array of tables: the path goes on in its last element
        split at hmodify
        · cases hmodify
        · next last hlast =>
          have helements := isProper_tables_iff.mp (h.of_lookup hitem)
          obtain ⟨⟨inner, b'⟩, hinner, heq⟩ := Option.bind_eq_some_iff.mp hmodify
          obtain ⟨hproper, hb⟩ := ih (helements last (List.mem_of_getLast? hlast)) hinner
          cases heq
          refine ⟨h.set key (isProper_tables_iff.mpr fun items hmem => ?_), hb⟩
          rcases List.mem_append.mp hmem with hmem | hmem
          · exact helements items (List.mem_of_mem_dropLast hmem)
          · rw [List.mem_singleton.mp hmem]
            exact ⟨hproper.keys, hproper.items⟩

theorem IsProper.enter {path : List String} {v : TomlValue} {d' : Draft} (h : d.IsProper)
    (hv : v.IsProper) (henter : d.enter path key v = some d') : d'.IsProper := by
  obtain ⟨⟨d'', ⟨⟩⟩, hmodify, rfl⟩ := Option.map_eq_some_iff.mp henter
  refine (h.modifyAt (Q := fun _ => True) ?_ hmodify).1
  intro t t' _ ht hchange
  split at hchange
  · cases hchange
  · cases hchange
    exact ⟨ht.set key (.value hv), trivial⟩

theorem IsProper.openTable {path : List String} {root table : Draft} (h : d.IsProper)
    (hopen : d.openTable path key = some (root, table)) : root.IsProper ∧ table.IsProper := by
  refine h.modifyAt ?_ hopen
  intro t t' b ht hchange
  split at hchange
  · -- the table is new
    cases hchange
    exact ⟨ht, isProper_nil false false⟩
  · next items hitem =>
    -- a table that its subtables implied: it is taken out and opened
    cases hchange
    have hitems := isProper_table_iff.mp (ht.of_lookup hitem)
    exact ⟨ht.filter _, hitems.keys, hitems.items⟩
  · cases hchange

theorem IsProper.openElement {path : List String} {root table : Draft} (h : d.IsProper)
    (hopen : d.openElement path key = some (root, table)) : root.IsProper ∧ table.IsProper := by
  refine h.modifyAt ?_ hopen
  intro t t' b ht hchange
  split at hchange
  · cases hchange
    exact ⟨ht, isProper_nil false false⟩
  · cases hchange
    exact ⟨ht, isProper_nil false false⟩
  · cases hchange

theorem IsProper.place {path : List String} {isElement : Bool} {table d' : Draft} (h : d.IsProper)
    (htable : table.IsProper) (hplace : d.place path key isElement table = some d') :
    d'.IsProper := by
  have hone : IsProper ⟨false, false, table.items⟩ := ⟨htable.keys, htable.items⟩
  obtain ⟨⟨d'', ⟨⟩⟩, hmodify, rfl⟩ := Option.map_eq_some_iff.mp hplace
  refine (h.modifyAt (Q := fun _ => True) ?_ hmodify).1
  intro t t' _ ht hchange
  split at hchange
  · -- a plain table
    cases hchange
    exact ⟨ht.set key (isProper_table_iff.mpr htable), trivial⟩
  · -- the first element of an array of tables
    cases hchange
    refine ⟨ht.set key (isProper_tables_iff.mpr fun items hmem => ?_), trivial⟩
    rwa [List.mem_singleton.mp hmem]
  · next hitem =>
    -- a further element
    cases hchange
    refine ⟨ht.set key (isProper_tables_iff.mpr fun items hmem => ?_), trivial⟩
    rcases List.mem_append.mp hmem with hmem | hmem
    · exact isProper_tables_iff.mp (ht.of_lookup hitem) items hmem
    · rwa [List.mem_singleton.mp hmem]
  · cases hchange

end Draft

/-! ### Finished tables -/

theorem finishItems_eq (items : List (String × Item)) :
    finishItems items = items.map fun e => (e.1, e.2.finish) := by
  induction items with
  | nil => rw [finishItems, List.map_nil]
  | cons e items ih => rw [finishItems, ih, List.map_cons]

theorem finishTables_eq (elements : List (List (String × Item))) :
    finishTables elements = elements.map fun items => .table (finishItems items) := by
  induction elements with
  | nil => rw [finishTables, List.map_nil]
  | cons items elements ih => rw [finishTables, ih, List.map_cons]

/-- Finished entries are proper where their items are so when finished. -/
theorem isProper_table_finishItems {items : List (String × Item)}
    (hkeys : (items.map Prod.fst).Nodup) (h : ∀ e ∈ items, e.2.finish.IsProper) :
    (TomlValue.table (finishItems items)).IsProper := by
  rw [finishItems_eq]
  refine .table ?_ ?_
  · rwa [List.map_map]
  · intro e he
    obtain ⟨e', he', rfl⟩ := List.mem_map.mp he
    exact h e' he'

theorem Item.IsProper.finish {item : Item} (h : item.IsProper) : item.finish.IsProper := by
  induction h with
  | value hv =>
      rw [Item.finish]
      exact hv
  | table hkeys _ ih =>
      rw [Item.finish]
      exact isProper_table_finishItems hkeys ih
  | tables hkeys _ ih =>
      rw [Item.finish, finishTables_eq]
      refine .array fun v hv => ?_
      obtain ⟨items, hitems, rfl⟩ := List.mem_map.mp hv
      exact isProper_table_finishItems (hkeys items hitems) (ih items hitems)

theorem Draft.IsProper.finish {d : Draft} (h : d.IsProper) :
    (TomlValue.table (finishItems d.items)).IsProper :=
  isProper_table_finishItems h.keys fun e he => (h.items e he).finish

theorem isProper_of_ofInlineEntries? {entries : List (List String × String × TomlValue)}
    {v : TomlValue} (hentries : ∀ e ∈ entries, e.2.2.IsProper)
    (h : ofInlineEntries? entries = some v) : v.IsProper := by
  obtain ⟨d, hfold, heq⟩ := Option.bind_eq_some_iff.mp h
  cases heq
  apply Draft.IsProper.finish
  refine foldlM_induction ?_ (Draft.isProper_nil false false) hfold
  intro d e he d' hd henter
  exact hd.enter (hentries e he) henter

/-! ### Values -/

theorem isProper_of_integerInRange? {n : Int} {v : TomlValue} (h : integerInRange? n = some v) :
    v.IsProper := by
  rw [integerInRange?] at h
  split at h
  · next hrange =>
    cases h
    exact .integer hrange.1 hrange.2
  · cases h

theorem isProper_of_takeInBase {base : Nat} {cs rest : List Char} {v : TomlValue}
    (h : takeInBase base cs = some (v, rest)) : v.IsProper := by
  obtain ⟨⟨ds, rest'⟩, -, h⟩ := Option.bind_eq_some_iff.mp h
  obtain ⟨v', hv, h⟩ := Option.bind_eq_some_iff.mp h
  cases h
  exact isProper_of_integerInRange? hv

theorem isProper_of_takeDecimal {negative : Bool} {cs rest : List Char} {v : TomlValue}
    (h : takeDecimal negative cs = some (v, rest)) : v.IsProper := by
  obtain ⟨⟨whole, rest₁⟩, -, h⟩ := Option.bind_eq_some_iff.mp h
  dsimp only at h
  split at h
  · cases h
  · split at h
    -- with a point or without, what follows is the same
    all_goals
      obtain ⟨⟨places, rest₂⟩, -, h⟩ := Option.bind_eq_some_iff.mp h
      obtain ⟨⟨exponent, rest₃⟩, -, h⟩ := Option.bind_eq_some_iff.mp h
      dsimp only at h
      split at h
      · obtain ⟨v', hv, h⟩ := Option.bind_eq_some_iff.mp h
        cases h
        exact isProper_of_integerInRange? hv
      · obtain ⟨v', hv, h⟩ := Option.bind_eq_some_iff.mp h
        cases h
        rw [floatOf?] at hv
        split at hv
        · cases hv
        · cases hv
          exact .float _

theorem isProper_of_takeNumeric {cs rest : List Char} {v : TomlValue}
    (h : takeNumeric cs = some (v, rest)) : v.IsProper := by
  unfold takeNumeric at h
  split at h
  · exact isProper_of_takeInBase h
  · exact isProper_of_takeInBase h
  · exact isProper_of_takeInBase h
  · split at h
    split at h
    · cases h
      exact .float _
    · cases h
      exact .float _
    · exact isProper_of_takeDecimal h

/-- What the readers of values take with some fuel is proper, if what was already read is. -/
structure TakesProper (fuel : Nat) : Prop where
  value : ∀ depth cs v rest, takeValue fuel depth cs = some (v, rest) → v.IsProper
  elements : ∀ depth done cs v rest, (∀ x ∈ done, x.IsProper) →
    takeElements fuel depth done cs = some (v, rest) → v.IsProper
  entries : ∀ depth done cs v rest, (∀ e ∈ done, e.2.2.IsProper) →
    takeInlineEntries fuel depth done cs = some (v, rest) → v.IsProper

theorem takesProper_zero : TakesProper 0 := by
  refine ⟨?_, ?_, ?_⟩
  · intro depth cs v rest h
    simp [takeValue] at h
  · intro depth done cs v rest _ h
    simp [takeElements] at h
  · intro depth done cs v rest _ h
    simp [takeInlineEntries] at h

namespace TakesProper

variable {fuel depth : Nat} {cs rest : List Char} {v : TomlValue}

theorem takeValue_succ (ih : TakesProper fuel)
    (h : takeValue (fuel + 1) depth cs = some (v, rest)) : v.IsProper := by
  unfold takeValue at h
  split at h
  · -- strings, of one quote and of the other
    obtain ⟨⟨s, rest'⟩, -, h⟩ := Option.bind_eq_some_iff.mp h
    cases h
    exact .string s
  · obtain ⟨⟨s, rest'⟩, -, h⟩ := Option.bind_eq_some_iff.mp h
    cases h
    exact .string s
  · -- an array, unless it is nested too deeply
    split at h
    · cases h
    · exact ih.elements _ _ _ _ _ (fun x hx => by cases hx) h
  · -- an inline table, whose keys are checked when it is closed
    split at h
    · cases h
    · split at h
      · cases h
        exact .table List.nodup_nil fun e he => by cases he
      · exact ih.entries _ _ _ _ _ (fun e he => by cases he) h
  · cases h
    exact .boolean true
  · cases h
    exact .boolean false
  · -- what stands in front of a number or a date is not told by one sign
    split at h
    · cases h
      exact .dateTime
    · exact isProper_of_takeNumeric h

theorem takeElements_succ (ih : TakesProper fuel) {done : List TomlValue}
    (hdone : ∀ x ∈ done, x.IsProper)
    (h : takeElements (fuel + 1) depth done cs = some (v, rest)) : v.IsProper := by
  have harray {elements : List TomlValue} (helements : ∀ x ∈ elements, x.IsProper) :
      (TomlValue.array elements.reverse).IsProper :=
    .array fun x hx => helements x (List.mem_reverse.mp hx)
  unfold takeElements at h
  split at h
  · cases h
    exact harray hdone
  · obtain ⟨⟨x, rest'⟩, hx, h⟩ := Option.bind_eq_some_iff.mp h
    have hmore : ∀ y ∈ x :: done, y.IsProper :=
      List.forall_mem_cons.mpr ⟨ih.value _ _ _ _ hx, hdone⟩
    dsimp only at h
    split at h
    · exact ih.elements _ _ _ _ _ hmore h
    · cases h
      exact harray hmore
    · cases h

theorem takeInlineEntries_succ (ih : TakesProper fuel)
    {done : List (List String × String × TomlValue)} (hdone : ∀ e ∈ done, e.2.2.IsProper)
    (h : takeInlineEntries (fuel + 1) depth done cs = some (v, rest)) : v.IsProper := by
  unfold takeInlineEntries at h
  -- A key; without an equals sign behind it the text is refused.
  obtain ⟨⟨path, key, rest₁⟩, -, h⟩ := Option.bind_eq_some_iff.mp h
  dsimp only at h
  split at h
  · obtain ⟨⟨x, rest₂⟩, hx, h⟩ := Option.bind_eq_some_iff.mp h
    have hmore : ∀ e ∈ (path, key, x) :: done, e.2.2.IsProper :=
      List.forall_mem_cons.mpr ⟨ih.value _ _ _ _ hx, hdone⟩
    dsimp only at h
    split at h
    · exact ih.entries _ _ _ _ _ hmore h
    · obtain ⟨v', hv, h⟩ := Option.bind_eq_some_iff.mp h
      cases h
      exact isProper_of_ofInlineEntries? (fun e he => hmore e (List.mem_reverse.mp he)) hv
    · cases h
  · cases h

end TakesProper

theorem takesProper (fuel : Nat) : TakesProper fuel := by
  induction fuel with
  | zero => exact takesProper_zero
  | succ fuel ih =>
      exact ⟨fun _ _ _ _ => ih.takeValue_succ, fun _ _ _ _ _ => ih.takeElements_succ,
        fun _ _ _ _ _ => ih.takeInlineEntries_succ⟩

/-! ### Documents -/

/-- The value of a line, if it has one, is proper. -/
def Line.IsProper : Line → Prop
  | .header _ _ => True
  | .arrayHeader _ _ => True
  | .entry _ _ v => v.IsProper

theorem isProper_of_takeLine {cs rest : List Char} {line : Line}
    (h : takeLine cs = some (line, rest)) : line.IsProper := by
  unfold takeLine at h
  split at h
  · obtain ⟨⟨path, key, rest₁⟩, -, h⟩ := Option.bind_eq_some_iff.mp h
    dsimp only at h
    split at h
    · cases h
      trivial
    · cases h
  · obtain ⟨⟨path, key, rest₁⟩, -, h⟩ := Option.bind_eq_some_iff.mp h
    dsimp only at h
    split at h
    · cases h
      trivial
    · cases h
  · -- only an entry has a value
    obtain ⟨⟨path, key, rest₁⟩, -, h⟩ := Option.bind_eq_some_iff.mp h
    dsimp only at h
    split at h
    · obtain ⟨⟨v, rest₂⟩, hv, h⟩ := Option.bind_eq_some_iff.mp h
      cases h
      exact (takesProper _).value _ _ _ _ hv
    · cases h

theorem isProper_of_takeLines {fuel : Nat} {done lines : List Line} {cs : List Char}
    (hdone : ∀ line ∈ done, line.IsProper) (h : takeLines fuel done cs = some lines) :
    ∀ line ∈ lines, line.IsProper := by
  induction fuel generalizing done cs with
  | zero => cases h
  | succ fuel ih =>
      unfold takeLines at h
      split at h
      · cases h
        exact fun line hline => hdone line (List.mem_reverse.mp hline)
      · obtain ⟨⟨line, rest⟩, hline, h⟩ := Option.bind_eq_some_iff.mp h
        have hmore : ∀ l ∈ line :: done, l.IsProper :=
          List.forall_mem_cons.mpr ⟨isProper_of_takeLine hline, hdone⟩
        dsimp only at h
        split at h
        · cases h
          exact fun l hl => hmore l (List.mem_reverse.mp hl)
        · obtain ⟨rest', -, h⟩ := Option.bind_eq_some_iff.mp h
          exact ih hmore h

namespace Outline

/-- What stands in front of the last header, and the entries behind it, are proper. -/
structure IsProper (o : Outline) : Prop where
  root : o.root.IsProper
  table : o.table.IsProper

theorem IsProper.close {o : Outline} {d : Draft} (h : o.IsProper) (hclose : o.close = some d) :
    d.IsProper := by
  rw [Outline.close] at hclose
  split at hclose
  · cases hclose
    exact h.table
  · exact h.root.place h.table hclose

theorem IsProper.add {o o' : Outline} {line : Line} (h : o.IsProper) (hline : line.IsProper)
    (hadd : o.add line = some o') : o'.IsProper := by
  cases line with
  | entry path key v =>
      obtain ⟨table, henter, heq⟩ := Option.bind_eq_some_iff.mp hadd
      cases heq
      exact ⟨h.root, h.table.enter hline henter⟩
  | header path key =>
      -- Both kinds of header close the table before and open another.
      obtain ⟨d, hclose, hadd⟩ := Option.bind_eq_some_iff.mp hadd
      obtain ⟨⟨root, table⟩, hopen, heq⟩ := Option.bind_eq_some_iff.mp hadd
      cases heq
      obtain ⟨hroot, htable⟩ := (h.close hclose).openTable hopen
      exact ⟨hroot, htable⟩
  | arrayHeader path key =>
      obtain ⟨d, hclose, hadd⟩ := Option.bind_eq_some_iff.mp hadd
      obtain ⟨⟨root, table⟩, hopen, heq⟩ := Option.bind_eq_some_iff.mp hadd
      cases heq
      obtain ⟨hroot, htable⟩ := (h.close hclose).openElement hopen
      exact ⟨hroot, htable⟩

end Outline

/-- What a document says has no table with a key twice. -/
theorem isProper_of_ofText? {text : String} {v : TomlValue} (h : ofText? text = some v) :
    v.IsProper := by
  obtain ⟨lines, hlines, h⟩ := Option.bind_eq_some_iff.mp h
  obtain ⟨o, hfold, h⟩ := Option.bind_eq_some_iff.mp h
  obtain ⟨d, hclose, h⟩ := Option.bind_eq_some_iff.mp h
  cases h
  have hline := isProper_of_takeLines (fun line hline => by cases hline) hlines
  have hempty : (Draft.IsProper {}) := Draft.isProper_nil false false
  have ho : o.IsProper :=
    foldlM_induction (fun o line hmem o' ho hadd => ho.add (hline line hmem) hadd)
      ⟨hempty, hempty⟩ hfold
  exact (ho.close hclose).finish

end Toml

end SceneBatch
