import EntityQuery.Literal

/-!
# Reading queries

A query is read from left to right by its grammar

    select * from <entity>[ where <field>=<literal>[ and <field>=<literal>]*];

without any escape: a quoted literal runs to the next quote of the kind that opened it, `dt`, a blank
and a single quote open a moment, which runs to the next single quote, and any other literal runs to
the next blank or semicolon. The name of an entity runs to the next blank or semicolon, the name of a
field to the next equals sign. `Token.scalar?` tells what a literal stands for.
-/

namespace EntityQuery
namespace Query

/-- A literal as it is found in a query. -/
inductive Token where
  | quoted (cs : List Char)
  | moment (cs : List Char)
  | bare (cs : List Char)
deriving DecidableEq, Repr

/-- What a literal stands for. -/
inductive Scalar where
  | text (cs : List Char)
  | whole (n : Int)
  | decimal (d : Decimal)
  | truth (b : Bool)
  | date (d : Calendar.Date)
  | timestamp (t : Calendar.Timestamp)
deriving DecidableEq

/-- What a quoted moment stands for: a date, or else a point in time. -/
def Scalar.ofMoment? (cs : List Char) : Option Scalar :=
  match Reading.date? (String.ofList cs) with
  | some d => some (.date d)
  | none => (Reading.timestamp (String.ofList cs)).toOption.map .timestamp

/-- What a literal without quotes stands for: a truth value or a number, which is whole if it has
nothing but digits and a sign. -/
def Scalar.ofBare? (cs : List Char) : Option Scalar :=
  if cs = "true".toList then some (.truth true)
  else if cs = "false".toList then some (.truth false)
  else (Decimal.read? cs).map fun d =>
    if cs.all fun c => c = '-' || c.isDigit then
      .whole (if d.negative then -d.coefficient else d.coefficient)
    else .decimal d

/-- **What a literal stands for,** if it is one. -/
def Token.scalar? : Token → Option Scalar
  | quoted cs => some (.text cs)
  | moment cs => Scalar.ofMoment? cs
  | bare cs => Scalar.ofBare? cs

/-- What a query says: the entity and the fields with their literals. -/
structure Statement where
  entity : List Char
  clauses : List (List Char × Token)
deriving DecidableEq, Repr

/-- The rest of a text after a word at its front. -/
def dropWord? (word : List Char) (cs : List Char) : Option (List Char) :=
  if word.isPrefixOf cs then some (cs.drop word.length) else none

/-- The text up to a character, and the rest after it. -/
def upTo? (c : Char) (cs : List Char) : Option (List Char × List Char) :=
  match cs.dropWhile (· != c) with
  | [] => none
  | _ :: rest => some (cs.takeWhile (· != c), rest)

/-- Whether a character ends a name or a bare literal. -/
def isEnd (c : Char) : Bool := c = ' ' || c = ';'

/-- Whether a character is a quote. -/
def isQuote (c : Char) : Bool := c = '\'' || c = '"'

/-- The literal at the front of a text, and the rest. -/
def readToken? (cs : List Char) : Option (Token × List Char) :=
  match cs with
  | 'd' :: 't' :: ' ' :: '\'' :: r => (upTo? '\'' r).map fun p => (.moment p.1, p.2)
  | q :: r =>
    if isQuote q then (upTo? q r).map fun p => (.quoted p.1, p.2)
    else some (.bare (cs.takeWhile fun c => !isEnd c), cs.dropWhile fun c => !isEnd c)
  | [] => none

/-- The clauses of a text that ends with a semicolon, at most so many. -/
def readClauses? : Nat → List Char → Option (List (List Char × Token))
  | 0, _ => none
  | count + 1, cs => do
    let (name, rest) ← upTo? '=' cs
    let (token, rest) ← readToken? rest
    if rest = [';'] then some [(name, token)]
    else
      let rest ← dropWord? " and ".toList rest
      let clauses ← readClauses? count rest
      return (name, token) :: clauses

/-- **What a query says,** if it is one from its first to its last character. -/
def read? (cs : List Char) : Option Statement := do
  let rest ← dropWord? "select * from ".toList cs
  let entity := rest.takeWhile fun c => !isEnd c
  match rest.dropWhile fun c => !isEnd c with
  | [';'] => some ⟨entity, []⟩
  | rest => do
    let rest ← dropWord? " where ".toList rest
    return ⟨entity, ← readClauses? rest.length rest⟩

example : read? "select * from user;".toList = some ⟨"user".toList, []⟩ := by decide
example : read? "select * from user where id=7 and email='a and b=\"c\";';".toList =
    some ⟨"user".toList, [("id".toList, .bare "7".toList),
      ("email".toList, .quoted "a and b=\"c\";".toList)]⟩ := by decide
example : read? "select * from user where born=dt '2018-01-31';".toList =
    some ⟨"user".toList, [("born".toList, .moment "2018-01-31".toList)]⟩ := by decide

end Query
end EntityQuery
