import LayeredSchema.Pattern.Property
import LayeredSchema.Text.Ascii

/-!
Regular expressions over sets of characters, and what they match.

A set of places in a text of `n` characters is a list of `n + 1` marks. Main definitions:
`Regex.advance`, which moves a set of places across all matches that start in it, `Regex.finds`
and `Regex.spans`.
-/

namespace LayeredSchema.Pattern

/-- Places with respect to words, from whether there is a word character before and after them. -/
inductive WordPlace
  | boundary
  | noBoundary
  | start
  | stop
  | startHalf
  | stopHalf
  deriving DecidableEq, Repr

def WordPlace.admits (before after : Bool) : WordPlace → Bool
  | .boundary => before != after
  | .noBoundary => before == after
  | .start => !before && after
  | .stop => before && !after
  | .startHalf => !before
  | .stopHalf => !after

inductive Look
  | textStart
  | textEnd
  /-- Lines end in line feeds, and if `carriage` is set also in carriage returns. -/
  | lineStart (carriage : Bool)
  | lineEnd (carriage : Bool)
  /-- Words are made of letters, marks, digits and connectors, or of those in ASCII. -/
  | word (place : WordPlace) (unicode : Bool)
  deriving DecidableEq, Repr

namespace Look

def isAsciiWord (c : Char) : Bool := c.isAlphanum || c == '_'

def isWord (unicode : Bool) (c : Char) : Bool :=
  if unicode then Property.word.contains c else isAsciiWord c

/-- Whether a place between two characters, or at an end of the text, meets the condition. No line
starts or ends within the pair of a carriage return and a line feed. -/
def holds (before after : Option Char) : Look → Bool
  | .textStart => before.isNone
  | .textEnd => after.isNone
  | .lineStart false => before.all (· == '\n')
  | .lineStart true =>
    before.all fun c => c == '\n' || (c == '\r' && after != some '\n')
  | .lineEnd false => after.all (· == '\n')
  | .lineEnd true =>
    after.all fun c => c == '\r' || (c == '\n' && before != some '\r')
  | .word place unicode => place.admits (before.any (isWord unicode)) (after.any (isWord unicode))

end Look

inductive Regex
  | empty
  | chars (set : CharSet)
  | look (l : Look)
  | seq (a b : Regex)
  | alt (a b : Regex)
  /-- At least `least` and at most `most` times. -/
  | rep (r : Regex) (least : Nat) (most : Option Nat)
  deriving DecidableEq, Repr

namespace Regex

/-- Marks for the places of a text, from before its first character to after its last. -/
abbrev Marks := List Bool

def Marks.union (ms ns : Marks) : Marks := List.zipWith (· || ·) ms ns

/-- The neighbours of each place of a text that has `before` in front of it. -/
def contexts (before : Option Char) : List Char → List (Option Char × Option Char)
  | [] => [(before, none)]
  | c :: cs => (before, some c) :: contexts (some c) cs

/-- Applies a function `k` times. When it changes nothing any more, the rest is left out. -/
def iterate {α : Type} [DecidableEq α] (f : α → α) : Nat → α → α
  | 0, a => a
  | k + 1, a => if f a = a then a else iterate f k (f a)

/-- The places where a match can end that starts at a marked place of the text. -/
def advance (text : List Char) : Regex → Marks → Marks
  | .empty, ms => ms
  | .chars s, ms => false :: List.zipWith (fun m c => m && s.contains c) ms text
  | .look l, ms => List.zipWith (fun m p => m && l.holds p.1 p.2) ms (contexts none text)
  | .seq a b, ms => advance text b (advance text a ms)
  | .alt a b, ms => (advance text a ms).union (advance text b ms)
  | .rep r least most, ms =>
    let more := match most with
      | some k => k - least
      | none => text.length
    iterate (fun ms => ms.union (advance text r ms)) more (iterate (advance text r) least ms)

def finds (r : Regex) (text : List Char) : Bool :=
  (r.advance text (List.replicate (text.length + 1) true)).any id

def spans (r : Regex) (text : List Char) : Bool :=
  (r.advance text (true :: List.replicate text.length false)).getLast?.getD false

end Regex

end LayeredSchema.Pattern
