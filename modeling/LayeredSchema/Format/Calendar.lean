/-!
Dates of the proleptic Gregorian calendar, which has a year zero and years before it.
-/

namespace LayeredSchema.Calendar

def isLeapYear (year : Int) : Bool :=
  year % 4 == 0 && (year % 100 != 0 || year % 400 == 0)

/-- The number of days in a month; zero if there is no such month. -/
def daysInMonth (year month : Int) : Int :=
  match month with
  | 1 | 3 | 5 | 7 | 8 | 10 | 12 => 31
  | 4 | 6 | 9 | 11 => 30
  | 2 => if isLeapYear year then 29 else 28
  | _ => 0

/-- The years that dates can be in. -/
def firstYear : Int := -262143

def lastYear : Int := 262142

def isDate (year month day : Int) : Bool :=
  firstYear ≤ year && year ≤ lastYear && 1 ≤ day && day ≤ daysInMonth year month

/-- The year that two digits stand for: one from 1970 to 2069. -/
def yearOfTwoDigits (n : Int) : Int := if n < 70 then 2000 + n else 1900 + n

end LayeredSchema.Calendar
