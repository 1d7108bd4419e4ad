import LayeredSchema.Number.Double

/-!
The shortest decimal text of a double: the fewest digits that read back as it, and of those the
nearest.
-/

namespace LayeredSchema.Double

/-- Digits and the power of ten of the last of them. -/
structure Decimal where
  digits : Nat
  exponent : Int
  deriving DecidableEq, Repr

namespace Decimal

/-- The magnitude nearest to a decimal. -/
def roundsTo (d : Decimal) : Nat :=
  if 0 ≤ d.exponent then roundMagnitude (d.digits * tenTo d.exponent.toNat) 1
  else roundMagnitude d.digits (tenTo (-d.exponent).toNat)

/-- The same decimal without zeros at the end, at most `fuel` of them. -/
def strip : Nat → Decimal → Decimal
  | 0, d => d
  | fuel + 1, d =>
    if d.digits ≠ 0 ∧ d.digits % 10 = 0 then strip fuel ⟨d.digits / 10, d.exponent + 1⟩ else d

end Decimal

/-- Whether `10 ^ p` is at most a number of units. -/
def reaches (units : Nat) (p : Int) : Bool :=
  if 0 ≤ p then tenTo p.toNat <<< 1074 ≤ units else 1 <<< 1074 ≤ units * tenTo (-p).toNat

/-- The power of ten of the first digit of a number of units that is not zero. -/
def leadingExponent (units : Nat) : Int :=
  let p := Int.fdiv (((Nat.log2 units : Int) - 1074) * 30103) 100000
  if reaches units (p + 1) then p + 1 else if reaches units p then p else p - 1

/-- The quotient of a number of units by `10 ^ e`, as numerator and denominator. -/
def overPower (units : Nat) (e : Int) : Nat × Nat :=
  if 0 ≤ e then (units, tenTo e.toNat <<< 1074) else (units * tenTo (-e).toNat, 1 <<< 1074)

/-- The better of the two neighbours of a magnitude on the grid of `10 ^ e`, if one reads back. -/
def nearestOnGrid? (magnitude units : Nat) (e : Int) : Option Decimal :=
  let (num, den) := overPower units e
  let below : Decimal := ⟨num / den, e⟩
  let above : Decimal := ⟨num / den + 1, e⟩
  let twice := 2 * (num % den)
  let belowFirst := if twice = den then below.digits % 2 = 0 else twice < den
  match below.roundsTo == magnitude, above.roundsTo == magnitude with
  | true, true => some (if belowFirst then below else above)
  | true, false => some below
  | false, true => some above
  | false, false => none

/-- The shortest decimal, looking for one of `n` digits first. -/
def search (magnitude units : Nat) (lead : Int) : Nat → Nat → Decimal
  | 0, n => ⟨0, n⟩
  | fuel + 1, n =>
    match nearestOnGrid? magnitude units (lead - n + 1) with
    | some d => d.strip 20
    | none => search magnitude units lead fuel (n + 1)

def shortest (x : Double) : Decimal :=
  if x.units = 0 then ⟨0, 0⟩ else search x.magnitude x.units (leadingExponent x.units) 17 1

/-- Lays out the digits of a decimal. With the first digit at `10 ^ e`, numbers with
`-5 ≤ e < 16` are written out, always with a fraction; others have one digit before the point and
an exponent with its sign. -/
def layout (d : Decimal) : List Char :=
  let ds := Nat.toDigits 10 d.digits
  let e := d.exponent + ds.length - 1
  if d.digits = 0 then ['0', '.', '0']
  else if -5 ≤ e ∧ e < 16 then
    if 0 ≤ d.exponent then ds ++ List.replicate d.exponent.toNat '0' ++ ['.', '0']
    else if 0 ≤ e then ds.take (e.toNat + 1) ++ '.' :: ds.drop (e.toNat + 1)
    else '0' :: '.' :: List.replicate (-e - 1).toNat '0' ++ ds
  else
    let fraction := if ds.length = 1 then [] else '.' :: ds.drop 1
    let sign := if 0 ≤ e then '+' else '-'
    ds.take 1 ++ fraction ++ 'e' :: sign :: Nat.toDigits 10 e.natAbs

def text (x : Double) : String :=
  String.ofList ((if x.negative then ['-'] else []) ++ layout x.shortest)

end LayeredSchema.Double
