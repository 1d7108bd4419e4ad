import LayeredSchema.Number.Shortest

/-!
The numbers of JSON values: integers of 64 bits and finite doubles. An integer and a double of the
same value are different numbers, though they compare as equal where they compare as doubles.
-/

namespace LayeredSchema

/-- A number: a natural one, a negative integer, or a double. The negative integer with offset `n`
is `-1 - n`. -/
inductive Number
  | natural (n : Nat) (h : n < 1 <<< 64)
  | negative (n : Nat) (h : n < 1 <<< 63)
  | double (x : Double)
  deriving DecidableEq

namespace Number

def text : Number → String
  | .natural n _ => String.ofList (Nat.toDigits 10 n)
  | .negative n _ => String.ofList ('-' :: Nat.toDigits 10 (n + 1))
  | .double x => x.text

def toDouble : Number → Double
  | .natural n _ => Double.ofNat false n
  | .negative n _ => Double.ofNat true (n + 1)
  | .double x => x

/-- Equality of the nearest doubles as numbers. -/
def sameValue (a b : Number) : Bool := a.toDouble.sameValue b.toDouble

/-- The order of the nearest doubles as numbers. -/
def order (a b : Number) : Ordering := a.toDouble.order b.toDouble

end Number

end LayeredSchema
