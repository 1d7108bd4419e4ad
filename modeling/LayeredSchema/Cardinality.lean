import LayeredSchema.Text.Ascii
import LayeredSchema.Text.Blank
import LayeredSchema.Text.Quoted

/-!
Cardinalities: how often an attribute may occur. A range is written `min..max` with `*` for no upper
bound; a number alone stands for exactly that many.
-/

namespace LayeredSchema

open Text

/-- An inclusive range of 64-bit numbers; without `max` it has no upper bound. -/
structure Cardinality where
  min : Nat
  max : Option Nat
  deriving DecidableEq, Repr

namespace Cardinality

def isRequired (r : Cardinality) : Bool := 1 ≤ r.min

def contains (r : Cardinality) (count : Nat) : Bool :=
  r.min ≤ count && (match r.max with
    | some max => count ≤ max
    | none => true)

def text (r : Cardinality) : String :=
  String.ofList (Nat.toDigits 10 r.min ++ '.' :: '.' ::
    (match r.max with
      | some max => Nat.toDigits 10 max
      | none => ['*']))

structure Malformed where
  text : String
  deriving DecidableEq, Repr

def Malformed.message (e : Malformed) : String :=
  s!"malformed cardinality {quoted e.text}: expected <min>..<max>"

/-- A bound: decimal digits alone, for a number below `2 ^ 64`. -/
def bound? (cs : List Char) : Option Nat := (natural? cs).filter (· < 1 <<< 64)

def upperBound? : List Char → Option (Option Nat)
  | ['*'] => some none
  | cs => (bound? cs).map some

def parseChars? (cs : List Char) : Option Cardinality :=
  match splitOnce? ['.', '.'] cs with
  | none => (bound? cs).map fun n => ⟨n, some n⟩
  | some (lower, upper) => do
    let r : Cardinality := ⟨← bound? lower, ← upperBound? upper⟩
    if r.contains r.min then return r else none

/-- Reads a range, white space around it aside. The lower bound must not exceed the upper one. -/
def parse? (s : String) : Option Cardinality := parseChars? (trim s.toList)

def parse (s : String) : Except Malformed Cardinality :=
  match parse? s with
  | some r => .ok r
  | none => .error ⟨s⟩

end Cardinality

end LayeredSchema
