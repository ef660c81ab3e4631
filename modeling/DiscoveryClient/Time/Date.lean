import DiscoveryClient.Failure
import DiscoveryClient.Value.Equality

/-!
# Dates

A time is written as a date of the proleptic calendar in UTC, down to
microseconds.  Years beyond four digits have no date.
-/

namespace DiscoveryClient.Date

/-- The seconds of a time in milliseconds, as the nearest double. -/
def seconds : Value → Except Failure Double
  | .float milliseconds => .ok (milliseconds.divideBy 1000)
  | value =>
      match value.integer? with
      | some milliseconds => (Double.ofQuotient? milliseconds 1000).elim (.error .outOfRange) .ok
      | none => .error .wrongType

/-- Microseconds of a time in seconds.  The fraction of a second is scaled and
rounded to the even neighbour in turn. -/
def microseconds : Double → Except Failure Int
  | .nan _ => .error (.refusedValue "Invalid value NaN (not a number)")
  | .infinite _ => .error .outOfRange
  | .finite negative mantissa exponent =>
      let (numerator, denominator) := Double.ratio mantissa exponent
      let whole := numerator / denominator
      let fraction :=
        match Double.ofRatio false (numerator % denominator * 1000000) denominator with
        | .finite _ mantissa exponent =>
            let (numerator, denominator) := Double.ratio mantissa exponent
            Double.roundHalfEven numerator denominator
        | _ => 0
      let magnitude : Int := whole * 1000000 + fraction
      .ok (if negative then -magnitude else magnitude)

/-- Year, month and day of a day counted from the epoch. -/
def civil (day : Int) : Int × Nat × Nat :=
  let shifted := day + 719468
  let era := shifted.fdiv 146097
  let dayOfEra := (shifted - era * 146097).toNat
  let yearOfEra := (dayOfEra - dayOfEra / 1460 + dayOfEra / 36524 - dayOfEra / 146096) / 365
  let dayOfYear := dayOfEra - (365 * yearOfEra + yearOfEra / 4 - yearOfEra / 100)
  let shiftedMonth := (5 * dayOfYear + 2) / 153
  let dayOfMonth := dayOfYear - (153 * shiftedMonth + 2) / 5 + 1
  let month := if shiftedMonth < 10 then shiftedMonth + 3 else shiftedMonth - 9
  (yearOfEra + era * 400 + (if month ≤ 2 then 1 else 0), month, dayOfMonth)

/-- A number with leading zeros. -/
def padded (width number : Nat) : String :=
  let digits := Nat.toDigits 10 number
  String.ofList (List.replicate (width - digits.length) '0' ++ digits)

/-- Seconds of the epoch fit into 64 bits. -/
def isRepresentable (micros : Int) : Bool :=
  let seconds := micros.tdiv 1000000
  decide (seconds < Int.pow 2 63 ∧ -Int.pow 2 63 ≤ seconds)

/-- Years are counted from 1900 in 32 bits. -/
def isCountable (year : Int) : Bool :=
  decide (year - 1900 < Int.pow 2 31 ∧ -Int.pow 2 31 ≤ year - 1900)

/-- The year as it is reported, which is in 32 bits like the years from 1900. -/
def reportedYear (year : Int) : Int :=
  year.bmod (Nat.pow 2 32)

/-- The date of a time in milliseconds.  Years have four digits, and a fraction
is written when there is one. -/
def text (milliseconds : Value) : Except Failure String := do
  let micros ← microseconds (← seconds milliseconds)
  if !isRepresentable micros then .error .outOfRange
  else
      let (year, month, day) := civil (micros.fdiv 86400000000)
      let ofDay := (micros.fmod 86400000000).toNat
      let seconds := ofDay / 1000000
      let fraction := ofDay % 1000000
      if !isCountable year then
        .error .dateTooLate
      else if year < 1 ∨ 9999 < year then
        .error (.refusedValue ("year " ++ toString (reportedYear year) ++ " is out of range"))
      else
        .ok (padded 4 year.toNat ++ "-" ++ padded 2 month ++ "-" ++ padded 2 day ++ "T" ++
          padded 2 (seconds / 3600) ++ ":" ++ padded 2 (seconds / 60 % 60) ++ ":" ++
          padded 2 (seconds % 60) ++
          (if fraction = 0 then "" else "." ++ padded 6 fraction) ++ "+00:00")

end DiscoveryClient.Date
