import UploadInbox.Text.Decimal

/-!
# Points in time

A point in time is a number of seconds since the start of 1970, and has a date and a time of day in
the calendar. Dates are known for the years −262143 to 262142.

Source: `amz_timestamps` (`date` and `timestamp`), with the calendar behind it.
-/
namespace UploadInbox

structure Civil where
  year : Int
  month : Nat
  day : Nat
  hour : Nat
  minute : Nat
  second : Nat
  deriving DecidableEq, Repr

namespace Civil

/-- Year, month and day of a number of days since the start of 1970. The year is counted from
March, so that the leap day ends it, and the eras of 400 years repeat exactly. -/
def dateOfDays (days : Int) : Int × Nat × Nat :=
  let shifted := days + 719468
  let era := shifted.fdiv 146097
  let dayOfEra := (shifted - era * 146097).toNat
  let yearOfEra := (dayOfEra - dayOfEra / 1460 + dayOfEra / 36524 - dayOfEra / 146096) / 365
  let dayOfYear := dayOfEra - (365 * yearOfEra + yearOfEra / 4 - yearOfEra / 100)
  let shiftedMonth := (5 * dayOfYear + 2) / 153
  let day := dayOfYear - (153 * shiftedMonth + 2) / 5 + 1
  let month := if shiftedMonth < 10 then shiftedMonth + 3 else shiftedMonth - 9
  (yearOfEra + era * 400 + (if month ≤ 2 then 1 else 0), month, day)

def ofSeconds (seconds : Int) : Civil :=
  let days := seconds.fdiv 86400
  let rest := (seconds - days * 86400).toNat
  let (year, month, day) := dateOfDays days
  ⟨year, month, day, rest / 3600, rest / 60 % 60, rest % 60⟩

/-- Date and time of day, if the year is one of the calendar's. -/
def ofSeconds? (seconds : Int) : Option Civil :=
  let civil := ofSeconds seconds
  if -262143 ≤ civil.year ∧ civil.year ≤ 262142 then some civil else none

/-- Four digits of a year, or a sign and four or more for one that is out of their reach. -/
def yearText (year : Int) : Text :=
  if 0 ≤ year ∧ year ≤ 9999 then Decimal.padded 4 year.toNat
  else if year < 0 then '-' :: Decimal.padded 4 (-year).toNat
  else '+' :: Decimal.padded 4 year.toNat

/-- Year, month and day without anything between. -/
def date (c : Civil) : Text :=
  yearText c.year ++ Decimal.padded 2 c.month ++ Decimal.padded 2 c.day

/-- Date and time of day in the basic form, in coordinated universal time. -/
def timestamp (c : Civil) : Text :=
  date c ++ 'T' :: Decimal.padded 2 c.hour ++ Decimal.padded 2 c.minute
    ++ Decimal.padded 2 c.second ++ ['Z']

/-- Date and time of day in the extended form, down to the microsecond. -/
def extended (c : Civil) (microseconds : Nat) : Text :=
  yearText c.year ++ '-' :: Decimal.padded 2 c.month ++ '-' :: Decimal.padded 2 c.day
    ++ 'T' :: Decimal.padded 2 c.hour ++ ':' :: Decimal.padded 2 c.minute
    ++ ':' :: Decimal.padded 2 c.second ++ '.' :: Decimal.padded 6 microseconds ++ ['Z']

end Civil
end UploadInbox
