import EntityQuery.Calendar.Timestamp
import EntityQuery.Text.Quoted

/-!
# Why a text is no value

The reasons for which a text is refused as a number, a truth value or a point in time, and their
wording.
-/

namespace EntityQuery
namespace Reading

/-- The greatest number of digits that a whole number is read from or written with. -/
def digitLimit : Nat := 4300

/-- Why a text is refused. -/
inductive Fault where
  | notWhole (text : String)
  | tooManyDigits (digits : Nat)
  | notNumber (text : String)
  | notTruthValue
  | notMoment (text : String)
  | offset (micros : Int)
  | date (fault : Calendar.DateFault)
  | clock (fault : Calendar.ClockFault)
deriving DecidableEq

/-- A span of time as whole days, seconds and microseconds, of which only the days can be
negative; parts that are zero are left out. -/
def spanText (micros : Int) : String :=
  let days := micros.fdiv Calendar.microsInDay
  let rest := (micros.fmod Calendar.microsInDay).toNat
  let seconds := rest / 1000000
  let parts :=
    (if days = 0 then [] else ["days=" ++ days.repr]) ++
    (if seconds = 0 then [] else ["seconds=" ++ seconds.repr]) ++
    (if rest % 1000000 = 0 then [] else ["microseconds=" ++ (rest % 1000000).repr])
  "datetime.timedelta(" ++ (if parts = [] then "0" else ", ".intercalate parts) ++ ")"

/-- The wording of a refusal. -/
def Fault.message : Fault → String
  | notWhole text => "invalid literal for int() with base 10: " ++
      String.ofList ((Text.quoted text).toList.take 200)
  | tooManyDigits digits => "Exceeds the limit (" ++ digitLimit.repr ++
      " digits) for integer string conversion: value has " ++ digits.repr ++
      " digits; use sys.set_int_max_str_digits() to increase the limit"
  | notNumber text => "could not convert string to float: " ++ Text.quoted text
  | notTruthValue => "expected one of ['0', '1', 'false', 'no', 'true', 'yes']"
  | notMoment text => "Invalid isoformat string: " ++ Text.quoted text
  | offset micros =>
      "offset must be a timedelta strictly between -timedelta(hours=24) and " ++
      "timedelta(hours=24), not " ++ spanText micros ++ "."
  | date fault => fault.message
  | clock fault => fault.message

end Reading
end EntityQuery
