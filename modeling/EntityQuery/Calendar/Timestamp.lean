import EntityQuery.Calendar.Date

/-!
# Points in time

A timestamp is a date, a time of day down to the microsecond, and possibly an offset from
universal time. Two timestamps with offsets are the same if they are the same instant; one without
an offset is the same as no timestamp that has one.
-/

namespace EntityQuery
namespace Calendar

/-- The microseconds of a day. -/
def microsInDay : Nat := 86400000000

/-- A time of day. -/
structure Clock where
  hour : Fin 24
  minute : Fin 60
  second : Fin 60
  micros : Fin 1000000
deriving DecidableEq, Inhabited

/-- Why four numbers are no time of day. -/
inductive ClockFault where
  | hour
  | minute
  | second
deriving DecidableEq, Repr

/-- The wording of a fault. -/
def ClockFault.message : ClockFault → String
  | .hour => "hour must be in 0..23"
  | .minute => "minute must be in 0..59"
  | .second => "second must be in 0..59"

/-- The time of day of its parts; a fraction of a second has at most six digits. -/
def Clock.ofParts (hour minute second : Nat) (micros : Fin 1000000) : Except ClockFault Clock :=
  if hh : hour < 24 then
    if hm : minute < 60 then
      if hs : second < 60 then .ok ⟨⟨hour, hh⟩, ⟨minute, hm⟩, ⟨second, hs⟩, micros⟩
      else .error .second
    else .error .minute
  else .error .hour

/-- A time of day is made of its own parts. -/
@[simp] theorem Clock.ofParts_self (c : Clock) :
    Clock.ofParts c.hour c.minute c.second c.micros = .ok c := by
  simp [Clock.ofParts]

/-- The microseconds since midnight. -/
def Clock.sinceMidnight (c : Clock) : Nat :=
  ((c.hour.val * 60 + c.minute.val) * 60 + c.second.val) * 1000000 + c.micros.val

/-- A distance from universal time of less than a day, in microseconds. -/
structure Offset where
  micros : Int
  inRange : micros.natAbs < microsInDay
deriving DecidableEq

/-- Universal time itself. -/
def Offset.zero : Offset := ⟨0, by decide⟩

instance : Inhabited Offset := ⟨Offset.zero⟩

/-- The offset of that many microseconds, if they are less than a day. -/
def Offset.ofMicros? (micros : Int) : Option Offset :=
  if h : micros.natAbs < microsInDay then some ⟨micros, h⟩ else none

/-- A point in time. -/
structure Timestamp where
  date : Date
  clock : Clock
  offset : Option Offset
deriving DecidableEq, Inhabited

namespace Timestamp

/-- The microseconds from the beginning of the calendar in universal time. -/
def instant (t : Timestamp) (offset : Offset) : Int :=
  (t.date.ordinal * microsInDay + t.clock.sinceMidnight : Nat) - offset.micros

/-- Equality of points in time. -/
def same (t u : Timestamp) : Bool :=
  match t.offset, u.offset with
  | none, none => t == u
  | some o, some p => t.instant o == u.instant p
  | _, _ => false

/-- Hours, minutes and seconds with colons between them. -/
def clockChars (c : Clock) : List Char :=
  padded 2 c.hour ++ ':' :: padded 2 c.minute ++ ':' :: padded 2 c.second

/-- An offset as sign, hours and minutes, with seconds and microseconds only if there are any. -/
def offsetChars (o : Offset) : List Char :=
  let size := o.micros.natAbs
  let seconds := size / 1000000
  let micros := size % 1000000
  (if o.micros < 0 then '-' else '+') :: padded 2 (seconds / 3600) ++
    ':' :: padded 2 (seconds / 60 % 60) ++
    (if seconds % 60 = 0 ∧ micros = 0 then [] else ':' :: padded 2 (seconds % 60)) ++
    (if micros = 0 then [] else '.' :: padded 6 micros)

/-- Date and time to the second with a blank between them. -/
def secondsChars (t : Timestamp) : List Char :=
  t.date.chars ++ ' ' :: clockChars t.clock

/-- Date and time to the second, and the offset if there is one. -/
def cellText (t : Timestamp) : String :=
  String.ofList (t.secondsChars ++ (t.offset.map offsetChars).getD [])

/-- Date, time with its fraction if there is one, and the offset if there is one. -/
def text (t : Timestamp) : String :=
  String.ofList (t.secondsChars ++
    (if t.clock.micros.val = 0 then [] else '.' :: padded 6 t.clock.micros) ++
    (t.offset.map offsetChars).getD [])

end Timestamp
end Calendar
end EntityQuery
