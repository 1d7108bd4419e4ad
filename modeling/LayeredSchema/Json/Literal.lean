import LayeredSchema.Number.Basic
import LayeredSchema.Text.Ascii

/-!
Number literals of JSON and the numbers they denote.
-/

namespace LayeredSchema.Json

open Text

/-- A number literal: sign, digits before the point, digits after it and the exponent, where the
last two may be missing. -/
structure Literal where
  negative : Bool
  whole : List Char
  fraction : Option (List Char)
  exponent : Option Int

namespace Literal

/-- Digits at the start of a text and what follows them. -/
def takeDigits (cs : List Char) : List Char × List Char :=
  (cs.takeWhile Char.isDigit, cs.dropWhile Char.isDigit)

def readExponent? : List Char → Option Int
  | '+' :: cs => (natural? cs).map Int.ofNat
  | '-' :: cs => (natural? cs).map fun n => - (n : Int)
  | cs => (natural? cs).map Int.ofNat

def readTail? (negative : Bool) (whole : List Char) : List Char → Option Literal
  | [] => some ⟨negative, whole, none, none⟩
  | '.' :: cs =>
    match takeDigits cs with
    | ([], _) => none
    | (ds, []) => some ⟨negative, whole, some ds, none⟩
    | (ds, c :: cs) =>
      if c = 'e' || c = 'E' then (readExponent? cs).map fun e => ⟨negative, whole, some ds, some e⟩
      else none
  | c :: cs =>
    if c = 'e' || c = 'E' then (readExponent? cs).map fun e => ⟨negative, whole, none, some e⟩
    else none

/-- Reads a literal; a zero before other digits is refused. -/
def read? (cs : List Char) : Option Literal :=
  let (negative, cs) := match cs with
    | '-' :: cs => (true, cs)
    | cs => (false, cs)
  match takeDigits cs with
  | ([], _) => none
  | ('0' :: _ :: _, _) => none
  | (whole, rest) => readTail? negative whole rest

/-- Appends digits to a significand while it stays below `2 ^ 64`, and counts those appended. -/
def absorb : Nat → List Char → Nat × Nat
  | n, [] => (n, 0)
  | n, c :: cs =>
    let m := 10 * n + (c.toNat - '0'.toNat)
    if m < 1 <<< 64 then
      let (k, count) := absorb m cs
      (k, count + 1)
    else (n, 0)

/-- The double of a literal: its leading digits, as many as fit, scaled by a power of ten. -/
def toDouble? (l : Literal) : Option Double :=
  let (significand, used) := absorb 0 l.whole
  let (significand, places) := absorb significand (l.fraction.getD [])
  Double.ofScaled? l.negative significand
    ((l.whole.length - used : Nat) - (places : Int) + l.exponent.getD 0)

/-- The number of a literal. One without point and exponent is an integer if it fits into 64 bits;
minus zero is a double. Literals beyond the largest double have no number. -/
def toNumber? (l : Literal) : Option Number :=
  match l.fraction, l.exponent, l.negative with
  | none, none, false =>
    if h : digitsValue l.whole < 1 <<< 64 then some (.natural (digitsValue l.whole) h)
    else l.toDouble?.map .double
  | none, none, true =>
    if h : 0 < digitsValue l.whole ∧ digitsValue l.whole - 1 < 1 <<< 63 then
      some (.negative (digitsValue l.whole - 1) h.2)
    else l.toDouble?.map .double
  | _, _, _ => l.toDouble?.map .double

end Literal

end LayeredSchema.Json
