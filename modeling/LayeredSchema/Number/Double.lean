/-!
Finite doubles: the binary numbers of 64 bits, less the infinities and what is no number.

A double is a sign and a magnitude, the bit pattern without the sign, so two doubles are equal when
their patterns are. Arithmetic is exact on natural numbers and rounds once, to the nearest double
and on a tie to the even pattern.
-/

namespace LayeredSchema

/-- A finite double: its magnitude is below that of the infinities. -/
structure Double where
  negative : Bool
  magnitude : Nat
  finite : magnitude < 2047 <<< 52
  deriving DecidableEq

namespace Double

def bits (x : Double) : Nat := if x.negative then 1 <<< 63 + x.magnitude else x.magnitude

/-- How many times `2 ^ (-1074)` the value of a magnitude is. -/
def unitsOf (m : Nat) : Nat :=
  if m < 1 <<< 52 then m else (m % (1 <<< 52) + 1 <<< 52) <<< (m >>> 52 - 1)

def units (x : Double) : Nat := unitsOf x.magnitude

def signedUnits (x : Double) : Int := if x.negative then - (x.units : Int) else x.units

/-- The double with a sign and a magnitude, unless the magnitude is that of an infinity. -/
def ofMagnitude? (negative : Bool) (m : Nat) : Option Double :=
  if h : m < 2047 <<< 52 then some ⟨negative, m, h⟩ else none

def zero (negative : Bool) : Double := ⟨negative, 0, by decide⟩

/-- The natural number nearest to a quotient; of two, the even one. -/
def roundQuotient (a b : Nat) : Nat :=
  let q := a / b
  let r := a % b
  if 2 * r < b then q else if b < 2 * r then q + 1 else q + q % 2

/-- The magnitude nearest to `num / den`; that of an infinity if the quotient is too large. -/
def roundMagnitude (num den : Nat) : Nat :=
  let shift := Nat.log2 (num <<< 1074 / den) - 52
  shift <<< 52 + roundQuotient (num <<< 1074) (den <<< shift)

/-- The double nearest to a quotient with a sign. -/
def ofQuotient? (negative : Bool) (num den : Nat) : Option Double :=
  ofMagnitude? negative (roundMagnitude num den)

def tenTo (k : Nat) : Nat := Nat.pow 10 k

/-- The double nearest to `digits * 10 ^ exponent`. Quotients far outside the range are told by
the number of their places. -/
def ofDecimal? (negative : Bool) (digits : Nat) (exponent : Int) : Option Double :=
  let places := exponent + (Nat.toDigits 10 digits).length
  if digits = 0 || places < -323 then some (zero negative)
  else if 309 < places then none
  else if 0 ≤ exponent then ofQuotient? negative (digits * tenTo exponent.toNat) 1
  else ofQuotient? negative digits (tenTo (-exponent).toNat)

/-- The magnitude of a product with `10 ^ k`, both factors and the product rounded. -/
def scaleUp (m k : Nat) : Nat :=
  roundMagnitude (unitsOf m * unitsOf (roundMagnitude (tenTo k) 1)) (1 <<< 2148)

/-- The magnitude of a quotient by `10 ^ k`, both operands and the quotient rounded. -/
def scaleDown (m k : Nat) : Nat :=
  roundMagnitude (unitsOf m) (unitsOf (roundMagnitude (tenTo k) 1))

/-- The double that a significand below `2 ^ 64` and a power of ten denote where literals are read
fast: the significand is rounded first, then one multiplication or division by a rounded power of
ten follows, or two divisions where one power does not reach. -/
def ofScaled? (negative : Bool) (significand : Nat) (exponent : Int) : Option Double :=
  let m := roundMagnitude significand 1
  if significand = 0 then some (zero negative)
  else if 308 < exponent then none
  else if 0 ≤ exponent then ofMagnitude? negative (scaleUp m exponent.toNat)
  else if -308 ≤ exponent then ofMagnitude? negative (scaleDown m (-exponent).toNat)
  else if -616 ≤ exponent then
    ofMagnitude? negative (scaleDown (scaleDown m 308) (-(exponent + 308)).toNat)
  else some (zero negative)

/-- The double nearest to a natural number below `2 ^ 64`. -/
def ofNat (negative : Bool) (n : Nat) : Double := (ofQuotient? negative n 1).getD (zero negative)

/-- Equality as numbers: both zeros are equal. -/
def sameValue (x y : Double) : Bool := x.signedUnits == y.signedUnits

def order (x y : Double) : Ordering := compare x.signedUnits y.signedUnits

end Double

end LayeredSchema
