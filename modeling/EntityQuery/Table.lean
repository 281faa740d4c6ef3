import EntityQuery.Error

/-!
# Result tables

The service answers a query with a list of statement results, of which the first counts. It comes
in one of two forms: a header and lists of cells, or a list of rows that name their cells
themselves. Either becomes a table, a header and rows that map its names to cells.

Payloads are not validated beforehand. Whatever can be iterated serves as a list: a text gives its
characters, raw bytes their numbers, a mapping its keys.
-/

namespace EntityQuery

/-- The items over which a value iterates. -/
def Value.items? : Value → Option (List Value)
  | .text s => some (s.toList.map fun c => .text (String.singleton c))
  | .ragged points => some (points.map fun n => .ofPoints [n])
  | .fieldType t => some (t.name.toList.map fun c => .text (String.singleton c))
  | .bytes bs => some (bs.map fun b => .int b.toNat)
  | .list xs => some xs
  | .mapping es => some (es.map (·.1))
  | _ => none

/-- The items of a value that must have some. -/
def Value.iterate (v : Value) : Except ShapeFault (List Value) :=
  match v.items? with
  | some xs => .ok xs
  | none => .error (.notIterable v.fullKindName)

/-- The header and the rows of a result. -/
structure Table where
  header : List Value
  rows : List Entries
deriving Inhabited

namespace Table

/-- The table without columns and rows. -/
def empty : Table := ⟨[], []⟩

/-- The number of rows. -/
def size (t : Table) : Nat := t.rows.length

/-- Whether there are no rows. -/
def isEmpty (t : Table) : Bool := t.rows.isEmpty

/-- Sets entries one after the other; a key that cannot be one stops it. -/
def insertAll (m : Entries) : List (Value × Value) → Except ShapeFault Entries
  | [] => .ok m
  | e :: es =>
    if e.1.canBeKey then insertAll (m.insert e.1 e.2) es
    else .error (.unhashable e.1.kindName)

/-- A row of cells under a header, which must have as many. -/
def rowOfCells (header : List Value) (v : Value) : Except ShapeFault Entries :=
  match v.items? with
  | none => .error (.noLength v.fullKindName)
  | some cells =>
    if cells.length = header.length then insertAll [] (header.zip cells)
    else .error (.rowWidth cells.length header.length)

/-- Adds the names that the header does not have yet. -/
def extendHeader (header names : List Value) : List Value :=
  names.foldl (fun h name => if h.any name.same then h else h ++ [name]) header

/-- The names of all rows in the order of their first occurrence. -/
def headerOfRows (header : List Value) : List Value → Except ShapeFault (List Value)
  | [] => .ok header
  | row :: rows => match row.iterate with
    | .ok names => headerOfRows (extendHeader header names) rows
    | .error fault => .error fault

/-- A name and a cell from the element of a row at a position. -/
def entryOfElement (position : Nat) (v : Value) : Except ShapeFault (Value × Value) :=
  match v.items? with
  | none => .error (.entryNotSequence position)
  | some [k, c] => .ok (k, c)
  | some xs => .error (.entryLength position xs.length)

/-- Sets the entries that the elements of a row are, from the given position on. -/
def insertElements (m : Entries) (position : Nat) : List Value → Except ShapeFault Entries
  | [] => .ok m
  | v :: vs => match entryOfElement position v with
    | .error fault => .error fault
    | .ok e =>
      if e.1.canBeKey then insertElements (m.insert e.1 e.2) (position + 1) vs
      else .error (.unhashable e.1.kindName)

/-- A row that names its cells: a mapping, or elements of a name and a cell each. -/
def rowOfNamed (v : Value) : Except ShapeFault Entries :=
  match v with
  | .mapping es => .ok es
  | v => v.iterate >>= insertElements [] 0

/-- The table of rows that name their cells. All rows are looked at for the header before the
first is read. -/
def ofRows (rows : List Value) : Except ShapeFault Table :=
  match headerOfRows [] rows with
  | .error fault => .error fault
  | .ok header => Table.mk header <$> rows.mapM rowOfNamed

/-- The table of a statement result with a header; without one there are no rows. -/
def ofStatement (es : Entries) : Except ShapeFault Table :=
  match es.get? "header" with
  | none => .ok empty
  | some header => do
    let header ← header.iterate
    let rows ← ((es.get? "values").getD (.list [])).iterate
    Table.mk header <$> rows.mapM (rowOfCells header)

/-- **The table of a response.** -/
def ofResponse (es : Entries) : Except Error Table :=
  match es.get "result" with
  | .null => .error (.shape .noResult)
  | .list [] => .ok empty
  | .list (.list rows :: _) => (ofRows rows).mapError .shape
  | .list (.mapping es :: _) => (ofStatement es).mapError .shape
  | .list (first :: _) => .error (.showing first.inspect? fun shown => .shape (.unexpected shown))
  | v => .error (.shape (.notList v.kindName))

end Table
end EntityQuery
