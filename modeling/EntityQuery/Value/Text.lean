import EntityQuery.Number.Shortest
import EntityQuery.Reading.Number
import EntityQuery.Text.Quoted
import EntityQuery.Value.Basic

/-!
# Values as text

A value has two texts. `inspect?` shows it so that its kind can be seen, with quotes around a text;
`display?` shows it plainly. Neither exists if the value holds a whole number that has more digits
than may be written.
-/

namespace EntityQuery

open Calendar (Date Timestamp)

namespace Calendar

/-- A date as messages show it. -/
def Date.inspect (d : Date) : String :=
  "datetime.date(" ++ ", ".intercalate [d.year.repr, d.month.repr, d.day.repr] ++ ")"

/-- An offset as messages show it. -/
def Offset.inspect (o : Offset) : String :=
  if o.micros = 0 then "datetime.timezone.utc"
  else "datetime.timezone(" ++ Reading.spanText o.micros ++ ")"

/-- A point in time as messages show it; seconds and microseconds that are zero are left out. -/
def Timestamp.inspect (t : Timestamp) : String :=
  let c := t.clock
  let parts := [t.date.year, t.date.month, t.date.day, c.hour.val, c.minute.val] ++
    (if c.second.val = 0 ∧ c.micros.val = 0 then [] else [c.second.val]) ++
    (if c.micros.val = 0 then [] else [c.micros.val])
  "datetime.datetime(" ++ ", ".intercalate (parts.map Nat.repr ++
    (t.offset.map fun o => "tzinfo=" ++ o.inspect).toList) ++ ")"

end Calendar

/-- A field type as messages show it. -/
def FieldType.inspect (t : FieldType) : String :=
  "<FieldType." ++ Text.upper t.name ++ ": " ++ Text.quoted t.name ++ ">"

namespace Value

/-- A truth value as messages show it. -/
def boolText (b : Bool) : String := if b then "True" else "False"

mutual

/-- The text of a value that shows its kind. -/
def inspect? : Value → Option String
  | null => some "None"
  | bool b => some (boolText b)
  | int n => Reading.wholeText? n
  | float x => some x.text
  | text s => some (Text.quoted s)
  | ragged points => some (Text.quotedPoints points)
  | bytes bs => some (Text.quotedBytes bs)
  | date d => some d.inspect
  | timestamp t => some t.inspect
  | fieldType t => some t.inspect
  | list xs => (inspectItems? xs).map fun ts => "[" ++ ", ".intercalate ts ++ "]"
  | mapping es => (inspectEntries? es).map fun ts => "\x7b" ++ ", ".intercalate ts ++ "\x7d"

/-- The texts of the items of a list. -/
def inspectItems? : List Value → Option (List String)
  | [] => some []
  | x :: xs => match inspect? x with
    | none => none
    | some t => (inspectItems? xs).map (t :: ·)

/-- The texts of the entries of a mapping. -/
def inspectEntries? : List (Value × Value) → Option (List String)
  | [] => some []
  | (k, v) :: es => match inspect? k, inspect? v with
    | some kt, some vt => (inspectEntries? es).map ((kt ++ ": " ++ vt) :: ·)
    | _, _ => none

end

/-- The plain text of a value, which has a replacement for every half of a pair. -/
def display? : Value → Option String
  | text s => some s
  | ragged points => some (Text.replaced points)
  | fieldType t => some t.name
  | date d => some d.text
  | timestamp t => some t.text
  | v => v.inspect?

/-- The text of a value in a cell of a table: `null` for an absent value, points in time to the
second. -/
def cellText? : Value → Option String
  | null => some "null"
  | timestamp t => some t.cellText
  | v => v.display?

/-- What stands for a value in a cell of a table: its text, with the halves of pairs that are in it. -/
def cell? : Value → Option Value
  | ragged points => some (ragged points)
  | v => v.cellText?.map text

end Value
end EntityQuery
