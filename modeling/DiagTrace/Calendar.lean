import DiagTrace.Decimal.Fixed

/-!
Points in time and spans of time. A timestamp counts seconds from the first of January 1970 and holds a
fraction in nanoseconds; a fraction of a second or more marks a leap second. Dates follow the Gregorian
calendar in both directions without end.
-/
namespace DiagTrace

structure Timestamp where
  seconds : Int
  nanoseconds : Nat
deriving DecidableEq, Inhabited

namespace Timestamp

def epoch : Timestamp := ⟨0, 0⟩

/-- A time given in seconds and microseconds; whole seconds among the microseconds are carried over. -/
def ofParts (seconds microseconds : Nat) : Timestamp :=
  ⟨seconds + microseconds / 1000000, microseconds % 1000000 * 1000⟩

end Timestamp

structure Date where
  year : Int
  month : Nat
  day : Nat
deriving DecidableEq

namespace Date

/-- The date a number of days after the first of January 1970. Years are counted from March, so that
the leap day is the last of its year, in eras of 400 years. -/
def ofDays (days : Int) : Date :=
  let shifted := days + 719468
  let era := shifted / 146097
  let dayOfEra := (shifted % 146097).toNat
  let yearOfEra := (dayOfEra - dayOfEra / 1460 + dayOfEra / 36524 - dayOfEra / 146096) / 365
  let dayOfYear := dayOfEra - (365 * yearOfEra + yearOfEra / 4 - yearOfEra / 100)
  let monthFromMarch := (5 * dayOfYear + 2) / 153
  let day := dayOfYear - (153 * monthFromMarch + 2) / 5 + 1
  let month := if monthFromMarch < 10 then monthFromMarch + 3 else monthFromMarch - 9
  ⟨era * 400 + yearOfEra + (if month ≤ 2 then 1 else 0), month, day⟩

def digits (width n : Nat) : String := String.ofList (Hex.padded 10 width n)

/-- Years before 0 have a sign in front of four digits, and so have those above 9999. -/
def yearText (year : Int) : String :=
  if year < 0 then "-" ++ digits 4 year.natAbs
  else if 9999 < year then "+" ++ digits 4 year.natAbs
  else digits 4 year.natAbs

def text (date : Date) : String :=
  yearText date.year ++ "/" ++ digits 2 date.month ++ "/" ++ digits 2 date.day

end Date

namespace Timestamp

/-- Date and time of day with six decimal places, cut and not rounded; a leap second is second 60. -/
def text (time : Timestamp) : String :=
  let date := Date.ofDays (time.seconds / 86400)
  let second := (time.seconds % 86400).toNat
  let leap := time.nanoseconds / 1000000000
  date.text ++ " " ++ Date.digits 2 (second / 3600) ++ ":" ++ Date.digits 2 (second / 60 % 60) ++ ":"
    ++ Date.digits 2 (second % 60 + leap) ++ "." ++ Date.digits 6 (time.nanoseconds % 1000000000 / 1000)

/-- Date and time of day with nine decimal places, joined by `T` and ended by `Z`. -/
def isoText (time : Timestamp) : String :=
  let date := Date.ofDays (time.seconds / 86400)
  let second := (time.seconds % 86400).toNat
  let leap := time.nanoseconds / 1000000000
  Date.yearText date.year ++ "-" ++ Date.digits 2 date.month ++ "-" ++ Date.digits 2 date.day ++ "T"
    ++ Date.digits 2 (second / 3600) ++ ":" ++ Date.digits 2 (second / 60 % 60) ++ ":"
    ++ Date.digits 2 (second % 60 + leap) ++ "." ++ Date.digits 9 (time.nanoseconds % 1000000000) ++ "Z"

end Timestamp

/-- The last second of the calendar's range, at the end of the year 262142. -/
def Calendar.lastSecond : Nat := 8210266876799

structure Duration where
  nanoseconds : Nat
deriving DecidableEq, Inhabited

namespace Duration

def zero : Duration := ⟨0⟩

/-- Seconds as the nearest 64-bit number: whole seconds plus the fraction, each rounded. -/
def secondsDouble (span : Duration) : UInt64 :=
  let whole := (UInt64.ofNat (span.nanoseconds / 1000000000)).toFloat
  let fraction := (UInt64.ofNat (span.nanoseconds % 1000000000)).toFloat
  (whole + fraction / 1000000000).toBits

def text (span : Duration) : String := Decimal.fixedDouble 4 span.secondsDouble

/-- Seconds with as many decimal places as the span needs, for spans of a second and more. -/
def exactText (span : Duration) : String :=
  let whole := toString (span.nanoseconds / 1000000000)
  let places := (Hex.padded 10 9 (span.nanoseconds % 1000000000)).reverse.dropWhile (· == '0')
  if places.isEmpty then whole ++ "s" else whole ++ "." ++ String.ofList places.reverse ++ "s"

end Duration

end DiagTrace
