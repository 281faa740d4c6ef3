import EntityQuery.Text.Half
import EntityQuery.Text.Printable

/-!
# Quoted text in messages

Messages show a text between quotes. Single quotes are taken, unless the text holds a single quote
and no double quote. The chosen quote and the backslash are written after a backslash, the three
common controls by a letter, and every other character without a printed form by its code point in
two, four or eight lower-case hexadecimal digits. Half of a pair that stands alone has four. Raw
bytes are shown the same way after a `b`, with two digits for every byte that is no printable ASCII
character.
-/

namespace EntityQuery
namespace Text

/-- The number in lower-case hexadecimal digits, filled with zeros up to the width. -/
def hexDigits (width n : Nat) : List Char :=
  let ds := Nat.toDigits 16 n
  List.replicate (width - ds.length) '0' ++ ds

/-- The quote that encloses a text. -/
def quoteFor (cs : List Char) : Char :=
  if cs.contains '\'' && !cs.contains '"' then '"' else '\''

/-- The quoted form of one character between the given quotes. -/
def escapeChar (quote c : Char) : List Char :=
  if c = quote ∨ c = '\\' then ['\\', c]
  else if c = '\t' then ['\\', 't']
  else if c = '\n' then ['\\', 'n']
  else if c = '\r' then ['\\', 'r']
  else if isPrintable c then [c]
  else if c.toNat < 0x100 then '\\' :: 'x' :: hexDigits 2 c.toNat
  else if c.toNat < 0x10000 then '\\' :: 'u' :: hexDigits 4 c.toNat
  else '\\' :: 'U' :: hexDigits 8 c.toNat

/-- The quoted form of a text. -/
def quoted (s : String) : String :=
  let q := quoteFor s.toList
  String.ofList (q :: s.toList.flatMap (escapeChar q) ++ [q])

/-- The quoted form of one code point between the given quotes. -/
def escapePoint (quote : Char) (n : Nat) : List Char :=
  if isHalf n then '\\' :: 'u' :: hexDigits 4 n else escapeChar quote (Char.ofNat n)

/-- The quoted form of code points. -/
def quotedPoints (points : List Nat) : String :=
  let q := quoteFor (points.map Char.ofNat)
  String.ofList (q :: points.flatMap (escapePoint q) ++ [q])

/-- The quoted form of one byte between the given quotes. -/
def escapeByte (quote : Char) (b : UInt8) : List Char :=
  let c := Char.ofNat b.toNat
  if b.toNat < 0x7F then escapeChar quote c else '\\' :: 'x' :: hexDigits 2 b.toNat

/-- The quoted form of raw bytes. -/
def quotedBytes (bs : List UInt8) : String :=
  let q := quoteFor (bs.map fun b => Char.ofNat b.toNat)
  String.ofList ('b' :: q :: bs.flatMap (escapeByte q) ++ [q])

end Text
end EntityQuery
