import LayeredSchema.Pattern.Regex
import LayeredSchema.Text.Blank

/-!
The atoms of patterns: characters, escapes, and what follows a backslash.

In verbose patterns, white space and comments, which run from a number sign to the end of the line,
count for nothing between the characters of a pattern.
-/

namespace LayeredSchema.Pattern

open Text

/-- Classes with an escape of their own. -/
inductive Shorthand
  | digit
  | space
  | word
  deriving DecidableEq, Repr

inductive Anchor
  | lineStart
  | lineEnd
  | textStart
  | textEnd
  | word (place : WordPlace)
  deriving DecidableEq, Repr

inductive Atom
  /-- A character; `isByte` if it is written as a byte of two hexadecimal digits. -/
  | literal (c : Char) (isByte : Bool)
  | any
  | anchor (a : Anchor)
  | shorthand (s : Shorthand) (negated : Bool)
  | property (set : CharSet) (negated : Bool)

def dropBlank : (inComment : Bool) → List Char → List Char
  | _, [] => []
  | true, c :: cs => dropBlank (c != '\n') cs
  | false, c :: cs =>
    if isBlank c then dropBlank false cs else if c = '#' then dropBlank true cs else c :: cs

def skip (verbose : Bool) (cs : List Char) : List Char :=
  if verbose then dropBlank false cs else cs

theorem length_dropBlank_le (b : Bool) (cs : List Char) : (dropBlank b cs).length ≤ cs.length := by
  fun_induction dropBlank b cs <;> simp <;> omega

theorem length_skip_le (verbose : Bool) (cs : List Char) :
    (skip verbose cs).length ≤ cs.length := by
  rw [skip]
  split
  · exact length_dropBlank_le false cs
  · exact Nat.le_refl _

namespace Atom

def char (c : Char) : Atom := .literal c false

def braced? (verbose : Bool) : (inComment : Bool) → List Char → Option (List Char × List Char)
  | _, [] => none
  | true, c :: cs => braced? verbose (c != '\n') cs
  | false, c :: cs =>
    if c = '\x7d' then some ([], cs)
    else if verbose && isBlank c then braced? verbose false cs
    else if verbose && c = '#' then braced? verbose true cs
    else (braced? verbose false cs).map fun (inner, rest) => (c :: inner, rest)

def scalar? (n : Nat) : Option Char := if n.isValidChar then some (Char.ofNat n) else none

/-- The value of exactly `k` hexadecimal digits. -/
def hexDigits? (verbose : Bool) : (k value : Nat) → List Char → Option (Nat × List Char)
  | 0, value, cs => some (value, cs)
  | _ + 1, _, [] => none
  | k + 1, value, c :: cs => do
    hexDigits? verbose k (16 * value + (← hexDigit? c)) (skip verbose cs)

/-- A code point of `width` hexadecimal digits, or of any number of them in braces. -/
def codePoint? (verbose : Bool) (width : Nat) (cs : List Char) : Option (Atom × List Char) :=
  match skip verbose cs with
  | '\x7b' :: cs => do
    let (digits, rest) ← braced? verbose false cs
    if digits.isEmpty then none
    else
      let ds ← digits.mapM hexDigit?
      return (char (← scalar? (ds.foldl (fun n d => 16 * n + d) 0)), rest)
  | cs => do
    let (value, rest) ← hexDigits? verbose width 0 cs
    return (.literal (← scalar? value) (width == 2), rest)

/-- A property, by its name alone or with a value, which characters may be asked not to have. -/
def propertyOf? (negated : Bool) (name : List Char) : Option Atom :=
  let valued := fun (p, v) => Property.valued? (String.ofList p) (String.ofList v)
  match splitOnce? ['!', '='] name with
  | some named => (valued named).map fun s => .property s !negated
  | none =>
    match (splitOnce? [':'] name).or (splitOnce? ['='] name) with
    | some named => (valued named).map fun s => .property s negated
    | none => (Property.named? (String.ofList name)).map fun s => .property s negated

/-- A property, by a name of one letter or by a name in braces. -/
def property? (verbose negated : Bool) (cs : List Char) : Option (Atom × List Char) :=
  match skip verbose cs with
  | [] | '\\' :: _ => none
  | '\x7b' :: cs => do
    let (name, rest) ← braced? verbose false cs
    return (← propertyOf? negated name, rest)
  | c :: cs => (propertyOf? negated [c]).map fun a => (a, cs)

def wordPlace? (name : List Char) : Option WordPlace :=
  [("start", WordPlace.start), ("end", .stop), ("start-half", .startHalf),
    ("end-half", .stopHalf)].lookup (String.ofList name)

/-- A word boundary. A brace that a name does not follow is left to be the start of a count. -/
def boundary? (verbose : Bool) (cs : List Char) : Option (Atom × List Char) :=
  match cs with
  | '\x7b' :: inner =>
    match skip verbose inner with
    | [] => none
    | c :: _ =>
      if c.isAlpha || c = '-' then do
        let (name, rest) ← braced? verbose false inner
        return (.anchor (.word (← wordPlace? name)), rest)
      else some (.anchor (.word .boundary), cs)
  | cs => some (.anchor (.word .boundary), cs)

def isEscapable (c : Char) : Bool := isAscii c && !c.isAlphanum && c != '<' && c != '>'

def letter? : Char → Option Atom
  | 'a' => some (char '\x07')
  | 'f' => some (char '\x0c')
  | 't' => some (char '\t')
  | 'n' => some (char '\n')
  | 'r' => some (char '\r')
  | 'v' => some (char '\x0b')
  | 'A' => some (.anchor .textStart)
  | 'z' => some (.anchor .textEnd)
  | 'B' => some (.anchor (.word .noBoundary))
  | '<' => some (.anchor (.word .start))
  | '>' => some (.anchor (.word .stop))
  | 'd' => some (.shorthand .digit false)
  | 's' => some (.shorthand .space false)
  | 'w' => some (.shorthand .word false)
  | 'D' => some (.shorthand .digit true)
  | 'S' => some (.shorthand .space true)
  | 'W' => some (.shorthand .word true)
  | _ => none

def escape? (verbose : Bool) : List Char → Option (Atom × List Char)
  | [] => none
  | 'x' :: cs => codePoint? verbose 2 cs
  | 'u' :: cs => codePoint? verbose 4 cs
  | 'U' :: cs => codePoint? verbose 8 cs
  | 'p' :: cs => property? verbose false cs
  | 'P' :: cs => property? verbose true cs
  | 'b' :: cs => boundary? verbose cs
  | c :: cs => if isEscapable c then some (char c, cs) else (letter? c).map fun a => (a, cs)

end Atom

end LayeredSchema.Pattern
