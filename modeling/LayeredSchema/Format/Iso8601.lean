import LayeredSchema.Format.DatePattern

/-!
Dates and times in the forms of ISO 8601 that data may have without a pattern: a date, a date and a
time of day, or these with an offset from universal time.
-/

namespace LayeredSchema.Iso8601

open Text

/-- Drops a fraction of a second, a point and at least one digit. -/
def dropFraction? : List Char → Option (List Char)
  | '.' :: cs => match cs.takeWhile Char.isDigit with
    | [] => none
    | _ => some (cs.dropWhile Char.isDigit)
  | cs => some cs

/-- The numbers of the items at the start of a text, and what follows them. -/
def readStart? : List DateItem → List Char → Option (Readings × List Char)
  | [], cs => some ([], cs)
  | .literal _ :: _, [] => none
  | .literal c :: items, d :: cs => if c = d then readStart? items cs else none
  | .field f :: items, cs => do
    let digits := cs.take f.width
    if digits.length = f.width && digits.all Char.isDigit then
      let (readings, rest) ← readStart? items (cs.drop f.width)
      return ((f, digitsValue digits) :: readings, rest)
    else none

def dateItems : List DateItem := DatePattern.itemsOf "YYYY-MM-DD".toList
def timeItems : List DateItem := DatePattern.itemsOf "hh:mm:ss".toList

def dropDate? (cs : List Char) : Option (List Char) := do
  let (readings, rest) ← readStart? dateItems cs
  if readings.inRange && readings.givesDate then return rest else none

/-- What follows a time of day, which may have a fraction of a second. -/
def dropTime? (cs : List Char) : Option (List Char) := do
  let (readings, rest) ← readStart? timeItems cs
  if readings.inRange then dropFraction? rest else none

/-- A sign of an offset; a minus may also be the mathematical sign. -/
def isSign (c : Char) : Bool := c == '+' || c == '-' || c == '\u2212'

/-- Whether a text is an offset: `Z`, or a sign, hours below 24 and minutes. -/
def isOffset : List Char → Bool
  | ['Z'] | ['z'] => true
  | sign :: cs =>
    isSign sign && match readStart? (DatePattern.itemsOf "hh:mm".toList) cs with
      | some (readings, []) => readings.inRange
      | _ => false
  | [] => false

/-- A date, `T` or a space, a time and an offset. -/
def isInstant (cs : List Char) : Bool :=
  match dropDate? cs with
  | some (c :: cs) =>
    (c == 'T' || c == 't' || c == ' ') && (dropTime? cs).any isOffset
  | _ => false

/-- A date, alone or with `T` and a time. -/
def isLocal (cs : List Char) : Bool :=
  match dropDate? cs with
  | some [] => true
  | some ('T' :: cs) => dropTime? cs == some []
  | _ => false

/-- Whether a value is a date or a date and a time. -/
def admits (value : String) : Bool := isInstant value.toList || isLocal value.toList

end LayeredSchema.Iso8601
