import EntityQuery.Error
import EntityQuery.Reading.Moment

/-!
# Literals of the query language

A literal is the written form of a value in a query. Texts stand between quotes of either kind;
there is no escape, so a text that holds both kinds of quotes has no literal. Numbers are written
without an exponent, truth values as `true` and `false`, dates and points in time as `dt` and a
quoted date, with the time to the second if there is one.

`format` writes a value as a literal of a field type and refuses every value of another kind. A
literal is a list of code points, as a text may hold halves of pairs, which have no text
(`Text.points`). Queries are texts: `ofValue` gives the text of a literal and takes no halves.
`read` turns the text that a user typed into a value of a field type; blanks around it do not
count, and nothing but blanks is no value.
-/

namespace EntityQuery
namespace Literal

/-- The field type that a value stands for: a type itself, or exactly its canonical name. -/
def fieldType (v : Value) : Except Error FieldType :=
  match v.text?.bind FieldType.ofName? with
  | some t => .ok t
  | none => .error (.showing v.inspect? fun shown => .format (.unsupportedType shown))

/-- The quote for a text of any signs: single, unless the text holds one; none if it holds both. -/
def quoteFor? {α : Type} [BEq α] (single double : α) (cs : List α) : Option α :=
  if !cs.contains single then some single
  else if !cs.contains double then some double
  else none

/-- A text between quotes that it does not hold. -/
def quote? {α : Type} [BEq α] (single double : α) (cs : List α) : Option (List α) :=
  (quoteFor? single double cs).map fun q => q :: cs ++ [q]

/-- The refusal of a value of another kind. -/
def mismatch (v : Value) (t : FieldType) : Error :=
  .showing v.inspect? fun shown => .format (.mismatch shown v.kindName t)

/-- The literal of a text. -/
def ofText (s : String) : Except Error String :=
  match quote? '\'' '"' s.toList with
  | some cs => .ok (String.ofList cs)
  | none => .error (.format (.bothQuotes (Text.quoted s)))

/-- The literal of code points with halves of pairs among them. -/
def ofPoints (points : List Nat) : Except Error (List Nat) :=
  match quote? '\''.toNat '"'.toNat points with
  | some literal => .ok literal
  | none => .error (.format (.bothQuotes (Text.quotedPoints points)))

/-- The literal of a whole number. -/
def ofInt (n : Int) : Except Error String :=
  match Reading.wholeText? n with
  | some s => .ok s
  | none => .error .tooManyDigits

/-- The literal of a floating point number. -/
def ofFloat : Binary64 → Except Error String
  | .finite negative m q _ => .ok (String.ofList (Binary64.toDecimal negative m q).positional)
  | x => .error (.format (.notFinite x))

/-- The literal of a truth value. -/
def ofBool (b : Bool) : String := if b then "true" else "false"

/-- The literal of a date or a point in time that is written so. -/
def ofMoment (cs : List Char) : String := String.ofList ("dt '".toList ++ cs ++ ['\''])

/-- The literal of a point in time. -/
def ofTimestamp (t : Calendar.Timestamp) : Except Error String :=
  if t.offset.isSome then .error (.format (.zoned t))
  else if t.clock.micros.val ≠ 0 then .error (.format (.tooPrecise t))
  else .ok (ofMoment t.secondsChars)

/-- The literal of a present value without halves of pairs as a field type. -/
def ofPlain (v : Value) : FieldType → Except Error String
  | .string => match v.text? with
    | some s => ofText s
    | none => .error (mismatch v .string)
  | .integer => match v with
    | .int n => ofInt n
    | v => .error (mismatch v .integer)
  | .float => match v with
    | .int n => ofInt n
    | .float x => ofFloat x
    | v => .error (mismatch v .float)
  | .boolean => match v with
    | .bool b => .ok (ofBool b)
    | v => .error (mismatch v .boolean)
  | .date => match v with
    | .timestamp t => ofTimestamp t
    | .date d => .ok (ofMoment d.chars)
    | v => .error (mismatch v .date)

/-- The literal of a present value as a field type. -/
def ofPresent (v : Value) (t : FieldType) : Except Error (List Nat) :=
  match v, t with
  | .ragged points, .string => ofPoints points
  | v, t => Text.points <$> ofPlain v t

/-- **The text of the literal of a value as a field type.** A value with halves of pairs has a literal
but no text of it, and is refused like a value of another kind. -/
def ofValue (v : Value) (t : FieldType) : Except Error String :=
  match v with
  | .null => .error (.format (.absent t.name))
  | v => ofPlain v t

/-- **The literal of a value,** with the type given as a value. That the value is absent is found
before the type is looked at. -/
def format (v type : Value) : Except Error (List Nat) :=
  match v with
  | .null => .error (.showing type.display? fun shown => .format (.absent shown))
  | v => fieldType type >>= ofPresent v

/-- A type is the type that it is given as. -/
@[simp] theorem fieldType_self (t : FieldType) : fieldType (.fieldType t) = .ok t := by
  simp [fieldType, Value.text?]

/-- **A type given by its canonical name is the type.** -/
theorem format_name (v : Value) (t : FieldType) :
    format v (.text t.name) = format v (.fieldType t) := by
  have hn : fieldType (.text t.name) = .ok t := by simp [fieldType, Value.text?]
  cases v <;> simp [format, hn, Value.display?]

/-- A value with halves of pairs has a literal as a text, and is of no other type. -/
theorem format_ragged (points : List Nat) (t : FieldType) : format (.ragged points) (.fieldType t) =
    if t = .string then ofPoints points else .error (mismatch (.ragged points) t) := by
  cases t <;> simp [format, bind, Except.bind, ofPresent, ofPlain, Functor.map, Except.map]

/-- **Any other value has the literal whose text it has.** -/
theorem format_eq {v : Value} (whole : ∀ points, v ≠ .ragged points) (t : FieldType) :
    format v (.fieldType t) = Text.points <$> ofValue v t := by
  cases v with
  | ragged points => exact absurd rfl (whole points)
  | null => rfl
  | _ => simp [format, ofPresent, ofValue, bind, Except.bind]

/-- The value of a text as a field type. -/
def readAs (s : String) : FieldType → Except Reading.Fault Value
  | .string => .ok (.text s)
  | .integer => .int <$> Reading.whole s
  | .float => .float <$> Reading.number s
  | .boolean => .bool <$> Reading.truthValue s
  | .date => match Reading.date? s with
    | some d => .ok (.date d)
    | none => .timestamp <$> Reading.timestamp s

/-- The value of a text as a field type; the refusal shows the text. -/
def readStripped (s : String) (t : FieldType) : Except Error Value :=
  (readAs s t).mapError fun fault => .format (.unreadable s t fault)

/-- **The value that a user typed for a field type.** -/
def ofInput (s : String) (t : FieldType) : Except Error Value :=
  let s := Text.strip s
  if s = "" then .ok .null else readStripped s t

/-- The value that a user typed, with the type given as a value. Blank input is no value, whatever
the type. -/
def read (text? : Option String) (type : Value) : Except Error Value :=
  match text? with
  | none => .ok .null
  | some s =>
    let s := Text.strip s
    if s = "" then .ok .null else fieldType type >>= readStripped s

/-- A text is read as the type that is given. -/
theorem read_some (s : String) (t : FieldType) : read (some s) (.fieldType t) = ofInput s t := by
  rw [read, fieldType_self]
  rfl

end Literal
end EntityQuery
