import EntityQuery.Reading.Fault
import EntityQuery.Text.Half
import EntityQuery.Text.Utf8
import EntityQuery.Value.Basic

/-!
# Payloads

The service answers in JSON: null, truth values, numbers, texts, arrays and objects, with blanks
between them. Numbers without fraction and exponent are whole numbers of at most
`Reading.digitLimit` digits, all others floating point numbers; `NaN`, `Infinity` and `-Infinity`
are numbers too. A text may hold half of a pair (`Value.ragged`). In an object a repeated key keeps
its place and takes the later value. Only so many arrays and objects may stand inside one another as
the reader is given levels: the room that is left on the stack where it is called.

The readers take the front of a text and return the rest. Their fuel bounds the nesting of calls;
twice the length of the text is more than any text can use up, since no two calls in a row leave
the text as it is.
-/

namespace EntityQuery
namespace Payload

/-- What holds other values. -/
inductive Container where
  | array
  | object
deriving DecidableEq, Repr

/-- The name of a container in messages. -/
def Container.name : Container → String
  | array => "array"
  | object => "object"

/-- Why a text is not read to its end, whatever follows: a whole number has too many digits, or a
container stands too deep. -/
inductive Obstacle where
  | tooManyDigits (digits : Nat)
  | tooDeep (container : Container)
deriving DecidableEq, Repr

/-- Why a text is no payload. -/
inductive Fault where
  | grammar
  | obstacle (o : Obstacle)
deriving DecidableEq, Repr

/-- What a reader gives: something, and the rest of the text. -/
abbrev Read (α : Type) := Except Fault (α × List Char)

/-- Whether a character is blank between the parts of a payload. -/
def isGap (c : Char) : Bool := c = ' ' || c = '\t' || c = '\n' || c = '\r'

/-- The text without the blanks at its front. -/
def skip (cs : List Char) : List Char := cs.dropWhile isGap

/-- The value of a hexadecimal digit. -/
def hexDigit? (c : Char) : Option Nat :=
  if '0' ≤ c ∧ c ≤ '9' then some (c.toNat - 48)
  else if 'a' ≤ c ∧ c ≤ 'f' then some (c.toNat - 87)
  else if 'A' ≤ c ∧ c ≤ 'F' then some (c.toNat - 55)
  else none

/-- The number of four hexadecimal digits. -/
def hexUnit? (a b c d : Char) : Option Nat := do
  return ((← hexDigit? a) * 16 + (← hexDigit? b)) * 256 + (← hexDigit? c) * 16 + (← hexDigit? d)

/-- The character after a backslash that stands for another one. -/
def escaped? (c : Char) : Option Char :=
  if c = '"' ∨ c = '\\' ∨ c = '/' then some c
  else if c = 'b' then some '\x08'
  else if c = 'f' then some '\x0c'
  else if c = 'n' then some '\n'
  else if c = 'r' then some '\r'
  else if c = 't' then some '\t'
  else none

/-- Puts a code point before what a reader gives. -/
def prepend (n : Nat) (r : Read (List Nat)) : Read (List Nat) :=
  r.map fun (points, rest) => (n :: points, rest)

/-- The code points of a text up to its closing quote. -/
def readPoints : List Char → Read (List Nat)
  | [] => .error .grammar
  | ['\\'] => .error .grammar
  | '"' :: r => .ok ([], r)
  | '\\' :: 'u' :: a :: b :: c :: d :: '\\' :: 'u' :: e :: f :: g :: h :: r =>
    match hexUnit? a b c d with
    | none => .error .grammar
    | some high =>
      if Text.isHighHalf high then
        match hexUnit? e f g h with
        | none => .error .grammar
        | some low =>
          if Text.isLowHalf low then prepend (Text.pairPoint high low) (readPoints r)
          else prepend high (readPoints ('\\' :: 'u' :: e :: f :: g :: h :: r))
      else prepend high (readPoints ('\\' :: 'u' :: e :: f :: g :: h :: r))
  | '\\' :: 'u' :: a :: b :: c :: d :: r =>
    match hexUnit? a b c d with
    | none => .error .grammar
    | some unit => prepend unit (readPoints r)
  | '\\' :: c :: r =>
    match escaped? c with
    | some c => prepend c.toNat (readPoints r)
    | none => .error .grammar
  | c :: r => if c.toNat < 0x20 then .error .grammar else prepend c.toNat (readPoints r)

/-- A text after its opening quote. -/
def readText (cs : List Char) : Read Value :=
  (readPoints cs).map fun (points, r) => (.ofPoints points, r)

/-- The part of a number before a point: a zero, or digits that do not begin with one. -/
def wholePart? : List Char → Option (List Char × List Char)
  | '0' :: r => some (['0'], r)
  | cs =>
    let ds := cs.takeWhile Char.isDigit
    if ds.isEmpty then none else some (ds, cs.dropWhile Char.isDigit)

/-- A point and digits, if they stand at the front. -/
def fractionPart : List Char → List Char × List Char
  | '.' :: r =>
    let ds := r.takeWhile Char.isDigit
    if ds.isEmpty then ([], '.' :: r) else (ds, r.dropWhile Char.isDigit)
  | cs => ([], cs)

/-- The mark of an exponent, an optional sign and digits, if they stand at the front. -/
def exponentPart? (cs : List Char) : Option (Int × List Char) :=
  match cs with
  | c :: r =>
    if c = 'e' ∨ c = 'E' then
      let signed := Decimal.splitSign r
      let ds := signed.2.takeWhile Char.isDigit
      if ds.isEmpty then none
      else
        let n : Int := Nat.ofDigitChars 10 ds 0
        some (if signed.1 then -n else n, signed.2.dropWhile Char.isDigit)
    else none
  | [] => none

/-- A number after its sign. -/
def readNumber (negative : Bool) (cs : List Char) : Read Value :=
  match wholePart? cs with
  | none => .error .grammar
  | some (ds, r) =>
    let fraction := fractionPart r
    match fraction.1, exponentPart? fraction.2 with
    | [], none =>
      if Reading.digitLimit < ds.length then .error (.obstacle (.tooManyDigits ds.length))
      else
        let n : Int := Nat.ofDigitChars 10 ds 0
        .ok (.int (if negative then -n else n), r)
    | places, exponent? =>
      let exponent := (exponent?.map (·.1)).getD 0
      let rest := (exponent?.map (·.2)).getD fraction.2
      .ok (.float (Binary64.ofDecimal ⟨negative, Nat.ofDigitChars 10 (ds ++ places) 0,
        exponent - places.length⟩), rest)

/-- The words that are values. -/
def words : List (List Char × Value) := [
  ("null".toList, .null), ("true".toList, .bool true), ("false".toList, .bool false),
  ("NaN".toList, .float (.nan 0)), ("Infinity".toList, .float (.infinite false)),
  ("-Infinity".toList, .float (.infinite true))]

/-- A word or a number. -/
def readScalar (cs : List Char) : Read Value :=
  match words.find? fun w => w.1.isPrefixOf cs with
  | some (w, v) => .ok (v, cs.drop w.length)
  | none =>
    match cs with
    | '-' :: r => readNumber true r
    | r => readNumber false r

mutual

/-- The value at the front of a text, in which so many containers may stand inside one another. -/
def readValue : Nat → (levels : Nat) → List Char → Read Value
  | 0, _, _ => .error .grammar
  | fuel + 1, levels, cs =>
    match cs with
    | '"' :: r => readText r
    | '[' :: r =>
      match levels with
      | 0 => .error (.obstacle (.tooDeep .array))
      | levels + 1 =>
        match skip r with
        | ']' :: r => .ok (.list [], r)
        | r => (readItems fuel levels [] r).map fun (vs, r) => (.list vs, r)
    | '\x7b' :: r =>
      match levels with
      | 0 => .error (.obstacle (.tooDeep .object))
      | levels + 1 =>
        match skip r with
        | '\x7d' :: r => .ok (.mapping [], r)
        | r => (readEntries fuel levels [] r).map fun (es, r) => (.mapping es, r)
    | r => readScalar r

/-- The items of an array after its bracket, of which those before are given in reverse. -/
def readItems : Nat → (levels : Nat) → List Value → List Char → Read (List Value)
  | 0, _, _, _ => .error .grammar
  | fuel + 1, levels, before, cs =>
    match readValue fuel levels cs with
    | .error e => .error e
    | .ok (v, r) =>
      match skip r with
      | ',' :: r => readItems fuel levels (v :: before) (skip r)
      | ']' :: r => .ok ((v :: before).reverse, r)
      | _ => .error .grammar

/-- The entries of an object after its bracket, added to those before. -/
def readEntries : Nat → (levels : Nat) → Entries → List Char → Read Entries
  | 0, _, _, _ => .error .grammar
  | fuel + 1, levels, before, cs =>
    match cs with
    | '"' :: r =>
      match readText r with
      | .error e => .error e
      | .ok (key, r) =>
        match skip r with
        | ':' :: r =>
          match readValue fuel levels (skip r) with
          | .error e => .error e
          | .ok (v, r) =>
            let entries := Entries.insert before key v
            match skip r with
            | ',' :: r => readEntries fuel levels entries (skip r)
            | '\x7d' :: r => .ok (entries, r)
            | _ => .error .grammar
        | _ => .error .grammar
    | _ => .error .grammar

end

/-- The value that a text is, with nothing but blanks around it. -/
def ofChars (cs : List Char) (levels : Nat) : Except Fault Value :=
  match readValue (2 * cs.length + 2) levels (skip cs) with
  | .error e => .error e
  | .ok (v, r) => if (skip r).isEmpty then .ok v else .error .grammar

/-- The value that bytes are; no value if they are no text or the text is no payload. Only an
obstacle is an error. -/
def ofBytes (bs : List UInt8) (levels : Nat) : Except Obstacle (Option Value) :=
  match Text.decode? bs with
  | none => .ok none
  | some s =>
    match ofChars s.toList levels with
    | .ok v => .ok (some v)
    | .error .grammar => .ok none
    | .error (.obstacle o) => .error o

end Payload
end EntityQuery
