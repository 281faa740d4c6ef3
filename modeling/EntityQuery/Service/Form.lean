import EntityQuery.Text.Utf8

/-!
# Form encoding

The parameters of a request are written as `name=value` with `&` between them. A byte of UTF-8 that
is no ASCII letter or digit and none of `_`, `.`, `-`, `~` is written as a percent sign and two
upper-case hexadecimal digits, except that a blank becomes a plus sign. The written form holds no
separator inside a name or a value, so it can be taken apart again (`decode?`).
-/

namespace EntityQuery
namespace Form

/-- Whether a byte is written as the character it is. -/
def isPlain (b : UInt8) : Bool :=
  let c := Char.ofNat b.toNat
  b.toNat < 128 && (c.isAlphanum || c = '_' || c = '.' || c = '-' || c = '~')

/-- An upper-case hexadecimal digit. -/
def hexDigit (n : Nat) : Char := if n < 10 then Char.ofNat (48 + n) else Char.ofNat (55 + n)

/-- The written form of a byte. -/
def encodeByte (b : UInt8) : List Char :=
  if isPlain b then [Char.ofNat b.toNat]
  else if b = 0x20 then ['+']
  else ['%', hexDigit (b.toNat / 16), hexDigit (b.toNat % 16)]

/-- The written form of a name or a value. -/
def encodeText (s : String) : List Char := (Text.encode s).flatMap encodeByte

/-- The written form of a parameter. -/
def encodePair (p : String × String) : List Char := encodeText p.1 ++ '=' :: encodeText p.2

/-- **The written form of parameters.** -/
def encode (ps : List (String × String)) : List Char := ['&'].intercalate (ps.map encodePair)

/-- The value of a hexadecimal digit of either case. -/
def hexValue? (c : Char) : Option Nat :=
  if '0' ≤ c ∧ c ≤ '9' then some (c.toNat - 48)
  else if 'A' ≤ c ∧ c ≤ 'F' then some (c.toNat - 55)
  else if 'a' ≤ c ∧ c ≤ 'f' then some (c.toNat - 87)
  else none

/-- The bytes of a written name or value. -/
def decodeBytes? : List Char → Option (List UInt8)
  | [] => some []
  | '%' :: a :: b :: r =>
    match hexValue? a, hexValue? b with
    | some x, some y => (decodeBytes? r).map (UInt8.ofNat (16 * x + y) :: ·)
    | _, _ => none
  | c :: r =>
    if c = '%' then none
    else if c = '+' then (decodeBytes? r).map (0x20 :: ·)
    else (decodeBytes? r).map (String.utf8EncodeChar c ++ ·)

/-- The name or value that was written. -/
def decodeText? (cs : List Char) : Option String := decodeBytes? cs >>= Text.decode?

/-- The parameter that was written: the name ends at the first equals sign. -/
def decodePair? (cs : List Char) : Option (String × String) :=
  let name := cs.takeWhile (· != '=')
  match cs.dropWhile (· != '=') with
  | [] => none
  | _ :: value => do return (← decodeText? name, ← decodeText? value)

/-- **The parameters that were written.** -/
def decode? (cs : List Char) : Option (List (String × String)) :=
  (cs.splitOn '&').mapM decodePair?

example : encode [("sql", "a b&c=é"), ("user", "")] = "sql=a+b%26c%3D%C3%A9&user=".toList := by
  decide +kernel
example : decode? "sql=a+b%26c%3D%C3%A9&user=".toList = some [("sql", "a b&c=é"), ("user", "")] := by
  decide +kernel

end Form
end EntityQuery
