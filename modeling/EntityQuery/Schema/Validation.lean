import EntityQuery.Text.Letter
import EntityQuery.Text.Utf8
import EntityQuery.Value.Json

/-!
# Validation

The descriptions of entities are checked part by part: a name has to be a text, and a flag has to stand for
a truth value. `Validation` gathers what the program needs of a package that does this: what it takes for a
text, what it takes for a flag, and how it words a complaint. Of JSON values it takes a text for what it is
and nothing else for a text, and exactly what stands for a flag for that flag; it never takes a number, a
list or a mapping for a text. Beyond JSON values packages differ. `Validation.lenient` is the one that is
run: it reads bytes as texts, and looks for a flag in whole numbers of 64 bits only.
-/

namespace EntityQuery

/-- What is wrong with one part of a description. -/
inductive Complaint where
  | missing
  | notText
  | notUnicode
  | emptyText
  | notTruthValue
  | unreadTruthValue
  | notList
  | notDescription
  | refused (reason : String)
deriving DecidableEq, Repr

/-- The wording of a complaint. -/
def Complaint.message : Complaint → String
  | missing => "Field required"
  | notText => "Input should be a valid string"
  | notUnicode => "Input should be a valid string, unable to parse raw data as a unicode string"
  | emptyText => "String should have at least 1 character"
  | notTruthValue => "Input should be a valid boolean"
  | unreadTruthValue => "Input should be a valid boolean, unable to interpret input"
  | notList => "Input should be a valid tuple"
  | notDescription => "Input should be a valid dictionary or instance of FieldMetadata"
  | refused reason => "Value error, " ++ reason

namespace Schema

/-! ### Flags -/

/-- The words for a flag that is set. -/
def trueWords : List String := ["1", "on", "t", "true", "y", "yes"]

/-- The words for a flag that is not set. -/
def falseWords : List String := ["0", "off", "f", "false", "n", "no"]

/-- The words for a flag. -/
def wordsFor (flag : Bool) : List String := if flag then trueWords else falseWords

/-- Whether a value stands for a flag: it equals the truth value, as the numbers 0 and 1 do, or it is
one of the words for it, in any case. -/
def StandsFor (v : Value) (flag : Bool) : Prop :=
  (Value.bool flag).same v = true ∨ ∃ s, v = .text s ∧ Text.lower s ∈ wordsFor flag

end Schema

/-- Whether a value may be taken for a text: it is one, or the bytes of one. -/
def Value.isTextual : Value → Bool
  | text _ | ragged _ | bytes _ | fieldType _ => true
  | _ => false

/-- **A package that checks the parts of a description,** and what is assumed of it. -/
class Validation where
  /-- The text that a value is taken for. -/
  text : Value → Except Complaint String
  /-- The flag that a value is taken for. -/
  flag : Value → Except Complaint Bool
  /-- The wording of a complaint. -/
  message : Complaint → String
  /-- What is taken for a text is a text or bytes. -/
  isTextual_of_text {v : Value} {s : String} (taken : text v = .ok s) : v.isTextual = true
  /-- A JSON value is taken for a text if it is that text. -/
  text_eq_ok {v : Value} {s : String} (json : v.isJson = true) : text v = .ok s ↔ v = .text s
  /-- A JSON value is taken for a flag if it stands for that flag. -/
  flag_eq_ok {v : Value} {b : Bool} (json : v.isJson = true) :
    flag v = .ok b ↔ Schema.StandsFor v b

namespace Schema

/-! ### A lenient validation -/

/-- A text, which may be given as its bytes. -/
def textOf (v : Value) : Except Complaint String :=
  match v with
  | .bytes bs => match Text.decode? bs with
    | some s => .ok s
    | none => .error .notUnicode
  | .ragged _ => .error .notUnicode
  | v => match v.text? with
    | some s => .ok s
    | none => .error .notText

/-- What is read as a text is one, or the bytes of one. -/
theorem isTextual_of_textOf {v : Value} {s : String} (taken : textOf v = .ok s) :
    v.isTextual = true := by
  cases v with
  | text | ragged | bytes | fieldType => rfl
  | _ => cases taken

/-- A JSON value is read as a text exactly if it is that text. -/
theorem textOf_eq_ok {v : Value} {s : String} (json : v.isJson = true) :
    textOf v = .ok s ↔ v = .text s := by
  cases v with
  | text s => simp [textOf, Value.text?]
  | ragged | bytes | date | timestamp | fieldType => simp [Value.isJson] at json
  | _ => simp [textOf, Value.text?]

/-- The flag that a word stands for, in any case. -/
def flagOfWord (s : String) : Except Complaint Bool :=
  let word := Text.lower s
  if trueWords.contains word then .ok true
  else if falseWords.contains word then .ok false
  else .error .unreadTruthValue

/-- The least whole number of 64 bits. -/
def leastWord : Int := -9223372036854775808

/-- The flag that a number stands for: 0 or 1. Only whole numbers of 64 bits are looked at. -/
def flagOfWhole (n : Int) : Except Complaint Bool :=
  if n = 0 then .ok false
  else if n = 1 then .ok true
  else if leastWord ≤ n ∧ n < -leastWord then .error .unreadTruthValue
  else .error .notTruthValue

/-- The flag that a value stands for. -/
def flagOfValue (v : Value) : Except Complaint Bool :=
  match v with
  | .bool b => .ok b
  | .int n => flagOfWhole n
  | .float x => match x.whole? with
    | some n => if n = leastWord then .error .notTruthValue else flagOfWhole n
    | none => .error .notTruthValue
  | .bytes bs => match Text.decode? bs with
    | some s => flagOfWord s
    | none => .error .unreadTruthValue
  | .ragged _ => .error .notUnicode
  | v => match v.text? with
    | some s => flagOfWord s
    | none => .error .notTruthValue

/-- A word is read as the flag that it is a word for. -/
theorem flagOfWord_eq_ok_iff {s : String} {flag : Bool} :
    flagOfWord s = .ok flag ↔ Text.lower s ∈ wordsFor flag := by
  have apart : ∀ word ∈ falseWords, word ∉ trueWords := by decide
  simp only [flagOfWord, List.contains_iff_mem, wordsFor]
  by_cases yes : Text.lower s ∈ trueWords
  · have no : Text.lower s ∉ falseWords := fun no => apart _ no yes
    cases flag <;> simp [yes, no]
  · by_cases no : Text.lower s ∈ falseWords
    · cases flag <;> simp [yes, no]
    · cases flag <;> simp [yes, no]

/-- The whole numbers 0 and 1 are read as flags, and no others. -/
theorem flagOfWhole_eq_ok_iff {n : Int} {flag : Bool} :
    flagOfWhole n = .ok flag ↔ n = if flag then 1 else 0 := by
  unfold flagOfWhole
  by_cases zero : n = 0
  · cases flag <;> simp [zero]
  · by_cases one : n = 1
    · cases flag <;> simp [one]
    · rw [if_neg zero, if_neg one]
      split <;> cases flag <;> simp [zero, one]

/-- **A JSON value is read as the flag that it stands for.** -/
theorem flagOfValue_eq_ok_iff {v : Value} {flag : Bool} (json : v.isJson = true) :
    flagOfValue v = .ok flag ↔ StandsFor v flag := by
  unfold StandsFor
  cases v with
  | bool b => cases b <;> cases flag <;> simp [flagOfValue, Value.same, Value.isWhole, Value.int?]
  | int n => simp [flagOfValue, flagOfWhole_eq_ok_iff, Value.same, Value.isWhole, Value.int?]
  | float x =>
    simp only [flagOfValue, Value.same, Value.isWhole, beq_iff_eq]
    cases x.whole? with
    | none => simp
    | some n =>
      -- the least whole number of 64 bits is refused on its own, and is no flag
      have far : ¬ leastWord = if flag then 1 else 0 := by cases flag <;> decide
      by_cases least : n = leastWord
      · simp [least, far]
      · simp [least, flagOfWhole_eq_ok_iff]
  | text s => simp [flagOfValue, Value.text?, flagOfWord_eq_ok_iff, Value.same, Value.isWhole,
      Value.int?]
  | ragged | bytes | date | timestamp | fieldType => simp [Value.isJson] at json
  | _ => simp [flagOfValue, Value.text?, Value.same, Value.isWhole, Value.int?]

end Schema

open Schema in
/-- **The validation that is run.** -/
instance Validation.lenient : Validation where
  text := textOf
  flag := flagOfValue
  message := Complaint.message
  isTextual_of_text := isTextual_of_textOf
  text_eq_ok := textOf_eq_ok
  flag_eq_ok := flagOfValue_eq_ok_iff

end EntityQuery
