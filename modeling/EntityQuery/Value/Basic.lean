import EntityQuery.Calendar.Timestamp
import EntityQuery.FieldType
import EntityQuery.Number.Binary64
import EntityQuery.Text.Half

/-!
# Values

A value is what a caller passes as a filter, what a payload of the service holds, and what a cell
of a result shows. The kinds are those of the payload format, raw bytes, dates and points in time,
and the five field types, which are texts of their canonical names at the same time. What a payload
writes as text with halves of pairs is kept as ragged code points.

A mapping is a list of entries in the order of their first insertion. Keys are compared as values
are: `same` is equality of what is denoted, so the whole number 1, the number 1.0 and the truth
value true are one key.
-/

namespace EntityQuery

open Calendar (Date Timestamp)

/-- A value of any kind. -/
inductive Value where
  | null
  | bool (b : Bool)
  | int (n : Int)
  | float (x : Binary64)
  | text (s : String)
  | ragged (points : List Nat)
  | bytes (bs : List UInt8)
  | date (d : Date)
  | timestamp (t : Timestamp)
  | fieldType (t : FieldType)
  | list (items : List Value)
  | mapping (entries : List (Value × Value))
deriving Inhabited

namespace Value

/-- The value of code points: a text if they are one. -/
def ofPoints (points : List Nat) : Value :=
  match Text.ofPoints? points with
  | some s => text s
  | none => ragged points

/-- The code points of a text make that text. -/
@[simp] theorem ofPoints_points (s : String) : ofPoints (Text.points s) = text s := by
  simp [ofPoints]

/-- The text of a value that is a text, which includes the field types. -/
def text? : Value → Option String
  | text s => some s
  | fieldType t => some t.name
  | _ => none

/-- Whether a value is a text, which includes the field types and what is ragged. -/
def isText : Value → Bool
  | text _ | fieldType _ | ragged _ => true
  | _ => false

/-- The whole number of a value that counts as one, which includes the truth values. -/
def int? : Value → Option Int
  | int n => some n
  | bool b => some (if b then 1 else 0)
  | _ => none

/-- Whether a whole number is the size of an index: one of 64 bits with a sign. -/
def isIndexSized (i : Int) : Bool := -9223372036854775808 ≤ i && i ≤ 9223372036854775807

/-- Whether a value is the whole number `n`. -/
def isWhole (n : Int) : Value → Bool
  | float x => x.whole? == some n
  | v => v.int? == some n

mutual

/-- Equality of what two values denote. -/
def same : Value → Value → Bool
  | null, v => match v with
    | null => true
    | _ => false
  | bool b, v => v.isWhole (if b then 1 else 0)
  | int n, v => v.isWhole n
  | float x, v => match v with
    | float y => x.same y
    | v => match v.int? with
      | some n => x.whole? == some n
      | none => false
  | text s, v => v.text? == some s
  | fieldType t, v => v.text? == some t.name
  | ragged points, v => match v with
    | ragged others => points == others
    | _ => false
  | bytes bs, v => match v with
    | bytes cs => bs == cs
    | _ => false
  | date d, v => match v with
    | date e => d == e
    | _ => false
  | timestamp t, v => match v with
    | timestamp u => t.same u
    | _ => false
  | list xs, v => match v with
    | list ys => sameItems xs ys
    | _ => false
  | mapping es, v => match v with
    | mapping fs => es.length == fs.length && sameEntries es fs
    | _ => false

/-- Equality of lists, item by item. -/
def sameItems : List Value → List Value → Bool
  | [], ys => ys.isEmpty
  | x :: xs, ys => match ys with
    | [] => false
    | y :: ys => same x y && sameItems xs ys

/-- Whether every entry of the first mapping is found in the second. -/
def sameEntries : List (Value × Value) → List (Value × Value) → Bool
  | [], _ => true
  | (k, v) :: es, fs => fs.any (fun f => same k f.1 && same v f.2) && sameEntries es fs

end

/-- Whether a value counts as present where only presence is asked: not absent, not false, not a
zero, and not empty. -/
def isPresent : Value → Bool
  | null => false
  | bool b => b
  | int n => n != 0
  | float x => !x.isZero
  | text s => s != ""
  | bytes bs => !bs.isEmpty
  | list xs => !xs.isEmpty
  | mapping es => !es.isEmpty
  | ragged _ | date _ | timestamp _ | fieldType _ => true

/-- The name of the kind of a value, as messages show it. -/
def kindName : Value → String
  | null => "NoneType"
  | bool _ => "bool"
  | int _ => "int"
  | float _ => "float"
  | text _ | ragged _ => "str"
  | bytes _ => "bytes"
  | date _ => "date"
  | timestamp _ => "datetime"
  | fieldType _ => "FieldType"
  | list _ => "list"
  | mapping _ => "dict"

/-- The full name of the kind of a value, as the faults of a malformed payload show it. -/
def fullKindName : Value → String
  | date _ => "datetime.date"
  | timestamp _ => "datetime.datetime"
  | v => v.kindName

/-- Whether a value is the absent one. -/
def isNull : Value → Bool
  | null => true
  | _ => false

/-- No other value is absent. -/
theorem isNull_iff {v : Value} : v.isNull = true ↔ v = .null := by
  cases v <;> simp [isNull]

/-- Whether a value can be a key of a mapping. Lists and mappings cannot. -/
def canBeKey : Value → Bool
  | list _ | mapping _ => false
  | _ => true

end Value

/-- The entries of a mapping. -/
abbrev Entries := List (Value × Value)

namespace Entries

/-- The value at a key. -/
def find? (es : Entries) (key : Value) : Option Value :=
  (List.find? (fun e => key.same e.1) es).map (·.2)

/-- The value at a key that is a text. -/
def get? (es : Entries) (key : String) : Option Value := find? es (.text key)

/-- The value at a text key, and the absent value if there is none. -/
def get (es : Entries) (key : String) : Value := (get? es key).getD .null

/-- Sets the value at a key: in place if the key is there, else at the end. -/
def insert : Entries → Value → Value → Entries
  | [], key, v => [(key, v)]
  | e :: es, key, v => if key.same e.1 then (e.1, v) :: es else e :: insert es key v

/-- The mapping of a list of entries, of which a later one replaces the value of an earlier. -/
def ofList (es : List (Value × Value)) : Entries := es.foldl (fun m e => insert m e.1 e.2) []

end Entries
end EntityQuery
