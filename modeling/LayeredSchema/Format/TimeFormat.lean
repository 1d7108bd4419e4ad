import LayeredSchema.Format.Calendar
import LayeredSchema.Text.Ascii
import LayeredSchema.Text.Blank

/-!
Time formats, such as `%d/%m/%Y %H:%M`.

A value is read along a format from left to right. Conversions read the fields of a date or a time
of day, white space in the format stands for any white space or none, and other characters stand for
themselves. Fields are gathered as readings: each must be in its range, and a field that is read
again must be the same. Main definitions: `TimeFormat.read?`, `Readings.givesDate`, `Readings.givesTime`.
-/

namespace LayeredSchema

open Text

inductive DateField
  | year
  | yearOfCentury
  | month
  | day
  | hour
  | minute
  | second
  deriving DecidableEq, Repr

namespace DateField

/-- How many digits the field has. A year with a sign may have more. -/
def width : DateField → Nat
  | .year => 4
  | _ => 2

/-- Whether a number can stand in the field. A second may be a leap second. -/
def admits (n : Int) : DateField → Bool
  | .year => -(1 <<< 31) ≤ n && n < 1 <<< 31
  | .yearOfCentury => 0 ≤ n && n ≤ 99
  | .month => 1 ≤ n && n ≤ 12
  | .day => 1 ≤ n && n ≤ 31
  | .hour => 0 ≤ n && n ≤ 23
  | .minute => 0 ≤ n && n ≤ 59
  | .second => 0 ≤ n && n ≤ 60

def letter : DateField → Char
  | .year => 'Y'
  | .yearOfCentury => 'y'
  | .month => 'm'
  | .day => 'd'
  | .hour => 'H'
  | .minute => 'M'
  | .second => 'S'

def all : List DateField := [.year, .yearOfCentury, .month, .day, .hour, .minute, .second]

end DateField

/-- Fields with the numbers that were read for them. -/
abbrev Readings := List (DateField × Int)

namespace Readings

def inRange (rs : Readings) : Bool := rs.all fun (f, n) => f.admits n

/-- Adds a reading. -/
def set? (rs : Readings) (f : DateField) (n : Int) : Option Readings :=
  if f.admits n then
    match rs.lookup f with
    | none => some ((f, n) :: rs)
    | some m => if m = n then some rs else none
  else none

/-- The year, in full or by two digits. If both are there, they must agree, and the year must not be
negative. -/
def year? (rs : Readings) : Option Int :=
  match rs.lookup .year, rs.lookup .yearOfCentury with
  | some y, none => some y
  | some y, some n => if 0 ≤ y && y % 100 = n then some y else none
  | none, some n => some (Calendar.yearOfTwoDigits n)
  | none, none => none

/-- Whether there are a year, a month and a day, and the date exists. -/
def givesDate (rs : Readings) : Bool :=
  match rs.year?, rs.lookup .month, rs.lookup .day with
  | some year, some month, some day => Calendar.isDate year month day
  | _, _, _ => false

/-- Whether there are an hour and a minute. Without a second, it is the first. -/
def givesTime (rs : Readings) : Bool :=
  (rs.lookup .hour).isSome && (rs.lookup .minute).isSome

end Readings

namespace TimeFormat

inductive Part
  | field (f : DateField)
  | literal (c : Char)
  | blank
  deriving DecidableEq, Repr

/-- What a letter after a percent sign stands for. Other letters than those of fields are not
known. -/
def conversion? (c : Char) : Option Part :=
  if c = '%' then some (.literal '%')
  else (DateField.all.find? fun f => f.letter == c).map .field

def parts? : List Char → Option (List Part)
  | [] => some []
  | ['%'] => none
  | '%' :: c :: cs => do return (← conversion? c) :: (← parts? cs)
  | c :: cs => do return (if isBlank c then .blank else .literal c) :: (← parts? cs)

/-- Reads a natural number, of at most `most` digits if that is given. -/
def digits? (most : Option Nat) (cs : List Char) : Option (Int × List Char) :=
  match (most.elim cs cs.take).takeWhile Char.isDigit with
  | [] => none
  | digits => some (digitsValue digits, cs.drop digits.length)

/-- Reads the number of a field. -/
def number? (f : DateField) (cs : List Char) : Option (Int × List Char) :=
  match f, cs with
  | .year, '-' :: cs => (digits? none cs).map fun (n, rest) => (-n, rest)
  | .year, '+' :: cs => digits? none cs
  | f, cs => digits? (some f.width) cs

/-- Reads the rest of a value along the rest of a format. -/
def readParts? (rs : Readings) : List Part → List Char → Option Readings
  | [], [] => some rs
  | [], _ :: _ => none
  | .blank :: parts, cs => readParts? rs parts (trimLeft cs)
  | .literal _ :: _, [] => none
  | .literal c :: parts, d :: cs => if c = d then readParts? rs parts cs else none
  | .field f :: parts, cs => do
    let (n, rest) ← number? f (trimLeft cs)
    readParts? (← rs.set? f n) parts rest

/-- The readings of a value along a format. -/
def read? (format value : List Char) : Option Readings := do readParts? [] (← parts? format) value

end TimeFormat

end LayeredSchema
