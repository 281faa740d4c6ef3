import EntityQuery.Reading.Fault

/-!
# Reading dates and points in time

A date is written `YYYY-MM-DD`, or by its week `YYYY-Www-d` where the day of the week may be
missing, both also without hyphens. A point in time is a date, any one character, and a time:
hours, minutes and seconds of two digits each, all or the first of them, with colons or without; a
fraction of a second may follow after a point or a comma, and is cut to six digits. At the end an
offset from universal time may stand: `Z`, or a sign and a time of the same form.

The reader of times is lenient: after the seconds the point may be missing, and one byte that is
no part of a time, or anything after six digits of a fraction, may stand before an offset. The
character of number zero counts as the end of the text where the text could end: in the place of
that byte, after a fraction, and after `Z`.
-/

namespace EntityQuery
namespace Reading

open Calendar

/-- The number of that many digits at the front, and the rest. -/
def digits? (count : Nat) (cs : List Char) : Option (Nat × List Char) :=
  let ds := cs.take count
  if ds.length = count && ds.all Char.isDigit then some (Nat.ofDigitChars 10 ds 0, cs.drop count)
  else none

/-- The day of a week: its number if there is one, else the first. A hyphen stands before it if
the date has hyphens. -/
def weekday? (hyphens : Bool) : List Char → Option Nat
  | [] => some 1
  | [d] => if hyphens then none else (digits? 1 [d]).map (·.1)
  | ['-', d] => if hyphens then (digits? 1 [d]).map (·.1) else none
  | _ => none

/-- What follows the year of a date and a possible hyphen. -/
def dateAfterYear? (year : Nat) (hyphens : Bool) : List Char → Option (Nat × Nat × Nat)
  | 'W' :: cs => do
    let (week, rest) ← digits? 2 cs
    let weekday ← weekday? hyphens rest
    ofWeek? year week weekday
  | cs => do
    let (month, rest) ← digits? 2 cs
    let rest ← if !hyphens then some rest
      else if rest.head? = some '-' then some rest.tail else none
    let (day, rest) ← digits? 2 rest
    if rest.isEmpty then some (year, month, day) else none

/-- Year, month and day of a text that is a date and nothing more. -/
def dateParts? (cs : List Char) : Option (Nat × Nat × Nat) := do
  let (year, rest) ← digits? 4 cs
  match rest with
  | '-' :: rest => dateAfterYear? year true rest
  | rest => dateAfterYear? year false rest

/-- The date of a text, for which its length must be that of a date. A date without hyphens may be
filled up to ten characters with anything. -/
def date? (s : String) : Option Date :=
  let cs := s.toList
  let size := s.utf8ByteSize
  let parts? :=
    if size = 7 || size = 8 then dateParts? cs
    else if size = 10 then
      if (cs.drop 4).head? = some '-' then dateParts? cs else dateParts? (cs.take 8)
    else none
  parts?.bind fun (y, m, d) => (Date.ofParts y m d).toOption

/-- The number of characters before the separator between date and time. A week date is followed
by pairs of digits, which tells whether it names a day of the week. -/
def dateLength (cs : List Char) : Nat :=
  if cs.length = 7 then 7
  else match cs.drop 4 with
  | '-' :: 'W' :: rest =>
    if cs.length > 8 && (rest.drop 2).head? = some '-' then
      if cs.length > 10 && ((rest.drop 4).head?.any Char.isDigit) then 8 else 10
    else 8
  | '-' :: _ => 10
  | 'W' :: rest =>
    let last := 7 + ((rest.drop 2).takeWhile Char.isDigit).length
    if last < 9 then last else if last % 2 = 0 then 7 else 8
  | _ => 8

/-- The parts of a time as they are written. -/
structure ClockParts where
  hour : Nat
  minute : Nat
  second : Nat
  micros : Fin 1000000

/-- A time as far as it could be read, and whether the text is at its end there. -/
abbrev ClockReading := ClockParts × Bool

/-- Whether a text is at its end. -/
def isEnd : List Char → Bool
  | [] => true
  | c :: _ => c = '\x00'

/-- A fraction of a second, cut to six digits. The first six characters must be digits, or all if
there are fewer. -/
def fraction? (cs : List Char) : Option (Fin 1000000 × Bool) :=
  let ds := cs.take 6
  if ds.all Char.isDigit then
    let micros := Nat.ofDigitChars 10 ((ds ++ List.replicate 6 '0').take 6) 0
    some (Fin.ofNat 1000000 micros, isEnd (cs.dropWhile Char.isDigit))
  else none

/-- What follows a part of a time. -/
inductive AfterPart where
  /-- Nothing that could be read; the flag says whether the text is at its end. -/
  | stop (complete : Bool)
  | part (cs : List Char)
  | fraction (cs : List Char)

/-- What follows a part of a time: the next part, after a colon if there are colons, or a fraction
after a point or a comma. A single character begins neither, and must be of a single byte. -/
def afterPart? (colons : Bool) : List Char → Option AfterPart
  | [] => some (.stop true)
  | [c] => if c.utf8Size = 1 then some (.stop (isEnd [c])) else none
  | c :: cs =>
    if colons && c = ':' then some (.part cs)
    else if c = '.' || c = ',' then some (.fraction cs)
    else if colons then none
    else some (.part (c :: cs))

/-- The time of a text without an offset. What follows the seconds is a fraction even without a
point. -/
def clock? (cs : List Char) : Option ClockReading := do
  let (hour, cs) ← digits? 2 cs
  let colons := cs.head? = some ':'
  let ending := fun minute second cs =>
    (fraction? cs).map fun f => ((⟨hour, minute, second, f.1⟩, f.2) : ClockReading)
  match ← afterPart? colons cs with
  | .stop complete => return (⟨hour, 0, 0, 0⟩, complete)
  | .fraction cs => ending 0 0 cs
  | .part cs =>
    let (minute, cs) ← digits? 2 cs
    match ← afterPart? colons cs with
    | .stop complete => return (⟨hour, minute, 0, 0⟩, complete)
    | .fraction cs => ending minute 0 cs
    | .part cs =>
      let (second, cs) ← digits? 2 cs
      match ← afterPart? colons cs with
      | .stop complete => return (⟨hour, minute, second, 0⟩, complete)
      | .fraction cs | .part cs => ending minute second cs

/-- The time of a text that is a time and nothing more. -/
def clockParts? (cs : List Char) : Option ClockParts :=
  (clock? cs).bind fun r => if r.2 then some r.1 else none

/-- The microseconds of a time. -/
def ClockParts.total (p : ClockParts) : Nat :=
  ((p.hour * 60 + p.minute) * 60 + p.second) * 1000000 + p.micros.val

/-- The microseconds of an offset of the given length. One of less than a second counts as none. -/
def offsetMicros (negative : Bool) (p : ClockParts) : Int :=
  if p.total < 1000000 then 0 else if negative then -(p.total : Int) else p.total

/-- A time with its offset in microseconds, if it has one. What could not be read of a time does
not count if an offset follows. -/
def timeParts? (cs : List Char) : Option (ClockParts × Option Int) := do
  let isMark := fun c => c = '+' || c = '-' || c = 'Z'
  let (clock, complete) ← clock? (cs.takeWhile fun c => !isMark c)
  match cs.dropWhile fun c => !isMark c with
  | [] => if complete then return (clock, none) else none
  | 'Z' :: rest => if isEnd rest then return (clock, some 0) else none
  | mark :: rest =>
    let offset ← clockParts? rest
    return (clock, some (offsetMicros (mark = '-') offset))

/-- The date and the time of a text that is a point in time. -/
def momentParts? (cs : List Char) : Option ((Nat × Nat × Nat) × ClockParts × Option Int) := do
  if cs.length < 7 then none
  let size := dateLength cs
  let date ← dateParts? (cs.take size)
  match cs.drop size with
  | [] => return (date, ⟨0, 0, 0, 0⟩, none)
  | _ :: time =>
    let time ← timeParts? time
    return (date, time)

/-- The offset of so many microseconds. -/
def offset (micros : Int) : Except Fault Offset :=
  match Offset.ofMicros? micros with
  | some o => .ok o
  | none => .error (.offset micros)

/-- The point in time of a text. -/
def timestamp (s : String) : Except Fault Timestamp := do
  match momentParts? s.toList with
  | none => throw (.notMoment s)
  | some ((y, m, d), clock, micros?) =>
    let offset? ← match micros? with
      | none => pure none
      | some micros => some <$> offset micros
    let date ← (Date.ofParts y m d).mapError .date
    let clock ← (Clock.ofParts clock.hour clock.minute clock.second clock.micros).mapError .clock
    return ⟨date, clock, offset?⟩

end Reading
end EntityQuery
