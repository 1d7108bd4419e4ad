import LayeredSchema.Format.TimeFormat
import LayeredSchema.Pattern.Reader

/-!
Date patterns, such as `DD/MM/YYYY hh:mm`.

A pattern is a row of fields of fixed width and of characters that stand for themselves. It is
written out twice, as a regular expression for the form of values and as a time format for what
stands in them. A value matches if it has the form, can be read along the format, and gives as much
of a date and a time of day as the pattern asks for. Main definitions: `DatePattern.parse`,
`DatePattern.admits`.
-/

namespace LayeredSchema

inductive DateItem
  | field (f : DateField)
  | literal (c : Char)
  deriving DecidableEq, Repr

structure DatePattern where
  timeFormat : String
  /-- None if the expression gets too large. -/
  shape : Option Pattern.Regex
  hasDate : Bool
  hasTime : Bool
  deriving DecidableEq, Repr

namespace DatePattern

/-- The items of a pattern, at each place the longest field that fits. -/
def itemsOf : List Char → List DateItem
  | 'Y' :: 'Y' :: 'Y' :: 'Y' :: cs => .field .year :: itemsOf cs
  | 'Y' :: 'Y' :: cs => .field .yearOfCentury :: itemsOf cs
  | 'M' :: 'M' :: cs => .field .month :: itemsOf cs
  | 'D' :: 'D' :: cs => .field .day :: itemsOf cs
  | 'h' :: 'h' :: cs => .field .hour :: itemsOf cs
  | 'H' :: 'H' :: cs => .field .hour :: itemsOf cs
  | 'm' :: 'm' :: cs => .field .minute :: itemsOf cs
  | 's' :: 's' :: cs => .field .second :: itemsOf cs
  | c :: cs => .literal c :: itemsOf cs
  | [] => []

def formatChars : DateItem → List Char
  | .field f => ['%', f.letter]
  | .literal c => if c = '%' then ['%', '%'] else [c]

/-- The characters that do not stand for themselves in regular expressions. -/
def metaChars : List Char :=
  ['\\', '.', '+', '*', '?', '(', ')', '|', '[', ']', '\x7b', '\x7d', '^', '$', '#', '&', '-', '~']

def shapeChars : DateItem → List Char
  | .field f => ['[', '0', '-', '9', ']', '\x7b'] ++ Nat.toDigits 10 f.width ++ ['\x7d']
  | .literal c => if metaChars.contains c then ['\\', c] else [c]

/-- The expression for the form of values. -/
def shapeOf (items : List DateItem) : List Char := ['^'] ++ items.flatMap shapeChars ++ ['$']

def has (items : List DateItem) (f : DateField) : Bool := items.contains (.field f)

def parse (pattern : String) : DatePattern :=
  let items := itemsOf pattern.toList
  { timeFormat := String.ofList (items.flatMap formatChars)
    shape := Pattern.regex? (shapeOf items)
    hasDate := (has items .year || has items .yearOfCentury) && has items .month && has items .day
    hasTime := has items .hour && has items .minute }

/-- Whether readings give what the pattern asks for. A time of day alone is not asked for. -/
def isSatisfied (p : DatePattern) (rs : Readings) : Bool :=
  if p.hasDate && p.hasTime then rs.givesDate && rs.givesTime
  else if p.hasDate then rs.givesDate
  else true

def admits (p : DatePattern) (value : String) : Bool :=
  p.shape.any (·.finds value.toList) &&
    (TimeFormat.read? p.timeFormat.toList value.toList).any p.isSatisfied

end DatePattern

end LayeredSchema
