/-
Why a settings text gives no value. A text that departs from the grammar, or that uses a tag or an
anchor that is not there, is malformed. The other faults lie in a single scalar: its tag asks for a
number, a truth value or a moment, and its text is none.
-/
import Registrar.Text.Quoted
import Registrar.Value

namespace Registrar.Yaml

inductive Fault where
  | malformed
  /-- An escape for a code point that no character has. -/
  | noCharacter (code : Nat)
  | emptyNumber
  | notInteger (base : Nat) (text : String)
  /-- More digits than are read as a number in base ten. -/
  | tooManyDigits (count : Nat)
  /-- Parts of a number that count in sixties, too many for a product of them. -/
  | tooManyParts
  | notFloat (text : String)
  | notTruth (text : String)
  | notMoment
  | badYear (year : Nat)
  | badMonth
  | badDay
  | badHour
  | badMinute
  | badSecond
  /-- A distance from universal time of a day or more, in minutes. -/
  | badOffset (minutes : Int)
  deriving DecidableEq, Repr

namespace Fault

/-- A span of days and seconds, seconds counting forward. -/
def spanText (minutes : Int) : String :=
  let days := minutes / 1440
  let seconds := minutes % 1440 * 60
  s!"datetime.timedelta(days={days}" ++
    (if seconds = 0 then ")" else s!", seconds={seconds})")

def message : Fault → String
  | malformed => "not well-formed"
  | noCharacter _ => "chr() arg not in range(0x110000)"
  | emptyNumber => "string index out of range"
  | notInteger base text =>
    s!"invalid literal for int() with base {base}: " ++
      String.ofList ((Text.quoted text).toList.take 200)
  | tooManyDigits count =>
    s!"Exceeds the limit ({mostDigits} digits) for integer string conversion: " ++
      s!"value has {count} digits; use sys.set_int_max_str_digits() to increase the limit"
  | tooManyParts => "int too large to convert to float"
  | notFloat text => "could not convert string to float: " ++ Text.quoted text
  | notTruth text => Text.quoted text
  | notMoment => "not a date or a time"
  | badYear year => s!"year {year} is out of range"
  | badMonth => "month must be in 1..12"
  | badDay => "day is out of range for month"
  | badHour => "hour must be in 0..23"
  | badMinute => "minute must be in 0..59"
  | badSecond => "second must be in 0..59"
  | badOffset minutes =>
    "offset must be a timedelta strictly between -timedelta(hours=24) and " ++
      "timedelta(hours=24), not " ++ spanText minutes ++ "."

end Fault

end Registrar.Yaml
