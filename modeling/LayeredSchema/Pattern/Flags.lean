import LayeredSchema.Pattern.Atom

/-!
The flags of patterns, and what atoms mean under them.
-/

namespace LayeredSchema.Pattern

/-- Flags by their letters. `swapGreed` has no effect on whether there is a match. -/
inductive Flag
  | caseless
  | multiline
  | dotAll
  | carriage
  | swapGreed
  | unicode
  | verbose
  deriving DecidableEq, Repr

def Flag.ofLetter? : Char → Option Flag
  | 'i' => some .caseless
  | 'm' => some .multiline
  | 's' => some .dotAll
  | 'R' => some .carriage
  | 'U' => some .swapGreed
  | 'u' => some .unicode
  | 'x' => some .verbose
  | _ => none

structure Flags where
  caseless : Bool := false
  multiline : Bool := false
  dotAll : Bool := false
  carriage : Bool := false
  swapGreed : Bool := false
  unicode : Bool := true
  verbose : Bool := false
  deriving DecidableEq, Repr

namespace Flags

def set (f : Flags) (flag : Flag) (value : Bool) : Flags :=
  match flag with
  | .caseless => { f with caseless := value }
  | .multiline => { f with multiline := value }
  | .dotAll => { f with dotAll := value }
  | .carriage => { f with carriage := value }
  | .swapGreed => { f with swapGreed := value }
  | .unicode => { f with unicode := value }
  | .verbose => { f with verbose := value }

def setAll (f : Flags) (changes : List (Flag × Bool)) : Flags :=
  changes.foldl (fun f c => f.set c.1 c.2) f

/-- A set with the characters that differ from its own in case, where case does not count. -/
def fold (f : Flags) (s : CharSet) : CharSet :=
  if f.caseless then (if f.unicode then s.foldCase else s.foldAsciiCase) else s

def admitted? (f : Flags) (s : CharSet) : Option CharSet :=
  if f.unicode || s.isAscii then some s else none

/-- The set of a class, of which the case is folded before it is negated. -/
def classSet? (f : Flags) (negated : Bool) (s : CharSet) : Option CharSet :=
  f.admitted? (if negated then (f.fold s).complement else f.fold s)

def asciiDigits : CharSet := .range '0' '9'
def asciiSpaces : CharSet := .ofRanges [('\t', '\r'), (' ', ' ')]
def asciiWord : CharSet := .ofRanges [('0', '9'), ('A', 'Z'), ('_', '_'), ('a', 'z')]

def shorthandSet (f : Flags) : Shorthand → CharSet
  | .digit => if f.unicode then Property.digit else asciiDigits
  | .space => if f.unicode then Property.whiteSpace else asciiSpaces
  | .word => if f.unicode then Property.word else asciiWord

/-- The set of a shorthand. It has both cases of each letter anyway. -/
def shorthand? (f : Flags) (s : Shorthand) (negated : Bool) : Option CharSet :=
  f.admitted? (if negated then (f.shorthandSet s).complement else f.shorthandSet s)

def property? (f : Flags) (s : CharSet) (negated : Bool) : Option CharSet :=
  if f.unicode then f.classSet? negated s else none

/-- The set that an atom adds to a class. Without Unicode, classes take ASCII characters alone. -/
def member? (f : Flags) : Atom → Option CharSet
  | .literal c _ => f.admitted? (.single c)
  | .shorthand s negated => f.shorthand? s negated
  | .property s negated => f.property? s negated
  | .any | .anchor _ => none

def lineEnds (f : Flags) : CharSet :=
  if f.carriage then .ofRanges [('\n', '\n'), ('\r', '\r')] else .single '\n'

def look (f : Flags) : Anchor → Look
  | .lineStart => if f.multiline then .lineStart f.carriage else .textStart
  | .lineEnd => if f.multiline then .lineEnd f.carriage else .textEnd
  | .textStart => .textStart
  | .textEnd => .textEnd
  | .word place => .word place f.unicode

/-- A character on its own. Without Unicode, case is that of ASCII. -/
def literal (f : Flags) (c : Char) : Regex :=
  .chars (if f.unicode || Text.isAscii c then f.fold (.single c) else .single c)

def atom? (f : Flags) : Atom → Option Regex
  | .literal c isByte =>
    if !f.unicode && isByte && !Text.isAscii c then none else some (f.literal c)
  | .any =>
    if f.unicode then some (.chars (if f.dotAll then .all else f.lineEnds.complement)) else none
  | .anchor a => some (.look (f.look a))
  | .shorthand s negated => (f.shorthand? s negated).map .chars
  | .property s negated => (f.property? s negated).map .chars

end Flags

end LayeredSchema.Pattern
