import LayeredSchema.Text.Ascii
import LayeredSchema.Text.Blank

/-!
Properties of code points, written as run lengths. A run is a number of consecutive code points
that share a value; a table lists its runs from the first code point on, lengths in hexadecimal.
-/

namespace LayeredSchema.Unicode

open Text

def hexValue (cs : List Char) : Nat :=
  cs.foldl (fun n c => 16 * n + (hexDigit? c).getD 0) 0

/-- The words of a text, which spaces and line feeds separate. -/
def words (text : String) : List (List Char) :=
  (pieces ' ' (text.toList.map fun c => if c = '\n' then ' ' else c)).filter (!·.isEmpty)

/-- The value of the run that a code point falls into. -/
def valueAt? {α : Type} : List (Nat × α) → Nat → Option α
  | [], _ => none
  | (len, a) :: runs, n => if n < len then some a else valueAt? runs (n - len)

/-- Reads words that are the name of a value followed by the length of its run. -/
def readRuns {α : Type} (named : List (String × α)) (default : α) (text : String) :
    List (Nat × α) :=
  (words text).map fun word =>
    let run := named.findSome? fun (name, a) =>
      (dropStem? name.toList word).map fun rest => (hexValue rest, a)
    run.getD (0, default)

/-- Reads words that are a list of values between plus signs, a colon, and the length of the run. -/
def readListedRuns (text : String) : List (Nat × List String) :=
  (words text).map fun word =>
    match splitOnce? [':'] word with
    | some (values, len) =>
      (hexValue len, if values.isEmpty then [] else (pieces '+' values).map String.ofList)
    | none => (0, [])

def readGroups (text : String) : List (List Nat) :=
  (words text).map fun word => (pieces '+' word).map hexValue

/-- A set of code points, as the lengths of the runs outside and inside it by turns. -/
structure CodePointSet where
  runs : List Nat

namespace CodePointSet

def ofRuns (text : String) : CodePointSet := ⟨(words text).map hexValue⟩

/-- Whether the code point `n` past the start of a list of runs is in the set, the first run being
inside it or not. -/
def holdsAt : Bool → List Nat → Nat → Bool
  | _, [], _ => false
  | inside, len :: runs, n => if n < len then inside else holdsAt (!inside) runs (n - len)

def contains (s : CodePointSet) (c : Char) : Bool := holdsAt false s.runs c.toNat

end CodePointSet

end LayeredSchema.Unicode
