import LayeredSchema.Unicode.Folding
import LayeredSchema.Unicode.Table

/-!
Sets of characters as lists of intervals of code points.

A list is tidy when its intervals ascend and leave gaps between them; all operations give tidy
lists.
-/

namespace LayeredSchema.Pattern

open Unicode

structure Interval where
  first : Nat
  last : Nat
  deriving DecidableEq, Repr

namespace Interval

def contains (i : Interval) (n : Nat) : Bool := i.first ≤ n && n ≤ i.last

end Interval

structure CharSet where
  intervals : List Interval
  deriving DecidableEq, Repr

namespace CharSet

def contains (s : CharSet) (c : Char) : Bool := s.intervals.any (·.contains c.toNat)

def empty : CharSet := ⟨[]⟩

def lastCodePoint : Nat := 0x10FFFF

def all : CharSet := ⟨[⟨0, lastCodePoint⟩]⟩

def single (c : Char) : CharSet := ⟨[⟨c.toNat, c.toNat⟩]⟩

def range (first last : Char) : CharSet := ⟨[⟨first.toNat, last.toNat⟩]⟩

/-- Joins an interval with those after it that overlap or touch it, and so on. The first ends are in
order. -/
def joinFrom (i : Interval) : List Interval → List Interval
  | [] => [i]
  | j :: js =>
    if j.first ≤ i.last + 1 then joinFrom ⟨i.first, max i.last j.last⟩ js else i :: joinFrom j js

/-- Joins intervals that overlap or touch, their first ends being in order. -/
def join : List Interval → List Interval
  | [] => []
  | i :: is => joinFrom i is

def ofIntervals (is : List Interval) : CharSet := ⟨join (is.mergeSort fun i j => i.first ≤ j.first)⟩

def ofRanges (rs : List (Char × Char)) : CharSet :=
  ofIntervals (rs.map fun (a, b) => ⟨a.toNat, b.toNat⟩)

def union (s t : CharSet) : CharSet := ofIntervals (s.intervals ++ t.intervals)

def unionAll (ss : List CharSet) : CharSet := ofIntervals (ss.flatMap (·.intervals))

/-- The gaps between intervals from the code point `n` on. -/
def gaps (n : Nat) : List Interval → List Interval
  | [] => if n ≤ lastCodePoint then [⟨n, lastCodePoint⟩] else []
  | i :: is =>
    if n < i.first then ⟨n, i.first - 1⟩ :: gaps (i.last + 1) is else gaps (i.last + 1) is

def complement (s : CharSet) : CharSet := ⟨gaps 0 s.intervals⟩

def inter (s t : CharSet) : CharSet := (s.complement.union t.complement).complement

def diff (s t : CharSet) : CharSet := s.inter t.complement

def symmDiff (s t : CharSet) : CharSet := (s.diff t).union (t.diff s)

/-- The intervals of a table of runs, the first of which starts at `n`. -/
def runIntervals (inside : Bool) (n : Nat) : List Nat → List Interval
  | [] => []
  | len :: runs =>
    if inside && len != 0 then ⟨n, n + len - 1⟩ :: runIntervals false (n + len) runs
    else runIntervals (!inside) (n + len) runs

def ofTable (t : CodePointSet) : CharSet := ⟨runIntervals false 0 t.runs⟩

/-- The intervals of the runs whose values satisfy a condition; the first run starts at `n`. -/
def valueIntervals {α : Type} (p : α → Bool) (n : Nat) : List (Nat × α) → List Interval
  | [] => []
  | (len, a) :: runs =>
    if p a && len != 0 then ⟨n, n + len - 1⟩ :: valueIntervals p (n + len) runs
    else valueIntervals p (n + len) runs

def ofRuns {α : Type} (runs : List (Nat × α)) (p : α → Bool) : CharSet :=
  ofIntervals (valueIntervals p 0 runs)

def containsCode (s : CharSet) (n : Nat) : Bool := s.intervals.any (·.contains n)

/-- The characters that differ from a member at most in case. -/
def foldCase (s : CharSet) : CharSet :=
  let added := Folding.orbits.filter fun orbit => orbit.any s.containsCode
  ofIntervals (s.intervals ++ added.flatMap fun orbit => orbit.map fun n => ⟨n, n⟩)

def asciiLetterPairs : List (Char × Char) :=
  (List.range 26).map fun i => (Char.ofNat ('A'.toNat + i), Char.ofNat ('a'.toNat + i))

def foldAsciiCase (s : CharSet) : CharSet :=
  let added := asciiLetterPairs.filter fun (a, b) => s.contains a || s.contains b
  s.union (ofIntervals (added.flatMap fun (a, b) => [⟨a.toNat, a.toNat⟩, ⟨b.toNat, b.toNat⟩]))

def isAscii (s : CharSet) : Bool := s.intervals.all (·.last < 128)

end CharSet

end LayeredSchema.Pattern
