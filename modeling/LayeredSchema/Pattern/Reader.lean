import LayeredSchema.Pattern.Bracket
import LayeredSchema.Pattern.Machine
import LayeredSchema.Unicode.Additions

/-!
Reading patterns.

A pattern is read from left to right. What is open on the way, a group with the branches and items
before it, is kept on a stack, and each step takes one item or sign. Main definition:
`Pattern.regex?`.
-/

namespace LayeredSchema.Pattern

open Text

/-- An expression with its layout and the depth to which what it was read from nests. -/
structure Part where
  regex : Regex
  layout : Layout
  depth : Nat

namespace Part

def empty : Part := ⟨.empty, .empty, 0⟩

def ofAtom (r : Regex) (depth : Nat) : Part := ⟨r, .ofAtom r, depth⟩

def maxDepth (ps : List Part) : Nat := (ps.map (·.depth)).foldl max 0

/-- One expression after the other. Several of them count as a level. -/
def sequence : List Part → Part
  | [] => empty
  | [p] => p
  | p :: ps =>
    ⟨ps.foldl (fun r q => .seq r q.regex) p.regex, .sequence ((p :: ps).map (·.layout)),
      maxDepth (p :: ps) + 1⟩

def alternatives : List Part → Part
  | [] => empty
  | [p] => p
  | p :: ps =>
    ⟨ps.foldl (fun r q => .alt r q.regex) p.regex, .choice ((p :: ps).map (·.layout)),
      maxDepth (p :: ps) + 1⟩

def repeated (p : Part) (least : Nat) (most : Option Nat) (eager : Bool) : Part :=
  ⟨.rep p.regex least most, p.layout.repeated least most eager, p.depth + 1⟩

/-- A group, which captures what it matches if it has a number. -/
def grouped (p : Part) (number : Option Nat) : Part :=
  match number with
  | some n => ⟨p.regex, .group n p.layout, p.depth + 1⟩
  | none => ⟨p.regex, p.layout, p.depth + 1⟩

end Part

/-- An item of a branch. Changes of flags are items that match the empty text, but cannot be
repeated. -/
inductive Piece
  | part (p : Part)
  | flagChange

def Piece.toPart : Piece → Part
  | .part p => p
  | .flagChange => .empty

/-- A group that is not closed: the flags at its start, its number if it captures, and the branches
and the items of the last branch, each with the last one first. -/
structure Level where
  flags : Flags
  number : Option Nat := none
  branches : List Part := []
  pieces : List Piece := []

namespace Level

def push (l : Level) (p : Piece) : Level := { l with pieces := p :: l.pieces }

def branch (l : Level) : Part := .sequence (l.pieces.reverse.map Piece.toPart)

def nextBranch (l : Level) : Level := { l with branches := l.branch :: l.branches, pieces := [] }

def content (l : Level) : Part := .alternatives (l.branch :: l.branches).reverse

def repeat? (l : Level) (least : Nat) (most : Option Nat) (eager : Bool) : Option Level :=
  match l.pieces with
  | .part p :: ps => some { l with pieces := .part (p.repeated least most eager) :: ps }
  | _ => none

end Level

/-- A pattern that is being read: the flags in force, the innermost group, those around it, how many
groups capture so far, and the names of groups. -/
structure Reading where
  flags : Flags := {}
  level : Level := { flags := {} }
  outer : List Level := []
  captures : Nat := 0
  names : List (List Char) := []

namespace Reading

def push (s : Reading) (p : Part) : Reading := { s with level := s.level.push (.part p) }

/-- Opens a group in which the flags given are in force. -/
def openGroup (s : Reading) (flags : Flags) : Reading :=
  { s with flags, level := { flags := s.flags }, outer := s.level :: s.outer }

def openCapture (s : Reading) : Reading :=
  { s with
    level := { flags := s.flags, number := some (s.captures + 1) }
    outer := s.level :: s.outer
    captures := s.captures + 1 }

/-- Closes the innermost group. The flags are those before it again. -/
def closeGroup? (s : Reading) : Option Reading :=
  match s.outer with
  | [] => none
  | l :: ls =>
    some { s with
      flags := s.level.flags
      level := l.push (.part (s.level.content.grouped s.level.number))
      outer := ls }

/-- Repeats the last item, as often as possible or else as rarely as possible. The flag for it
turns this round. -/
def repeat? (s : Reading) (least : Nat) (most : Option Nat) (isLazy : Bool) : Option Reading := do
  return { s with level := ← s.level.repeat? least most (isLazy == s.flags.swapGreed) }

end Reading

/-- Reads the flags of a group, up to the sign after them. -/
def flagChanges? (negated dangling : Bool) (seen : List (Flag × Bool)) :
    List Char → Option (List (Flag × Bool) × Char × List Char)
  | [] => none
  | c :: cs =>
    if c = ':' || c = ')' then if dangling then none else some (seen.reverse, c, cs)
    else if c = '-' then if negated then none else flagChanges? true true seen cs
    else
      match Flag.ofLetter? c with
      | none => none
      | some f =>
        if seen.any (·.1 == f) then none
        else flagChanges? negated false ((f, !negated) :: seen) cs

def isNameStart (c : Char) : Bool := c == '_' || Unicode.Additions.isAlphabetic c

def isNameChar (c : Char) : Bool :=
  c == '_' || c == '.' || c == '[' || c == ']' || Unicode.Additions.isAlphabetic c ||
    Unicode.Additions.isNumber c

/-- Reads the name of a group up to the closing angle bracket. -/
def groupName? (cs : List Char) : Option (List Char × List Char) :=
  match cs.takeWhile (· != '>'), cs.dropWhile (· != '>') with
  | c :: name, _ :: rest =>
    if isNameStart c && name.all isNameChar then some (c :: name, rest) else none
  | _, _ => none

/-- Opens a group with a name, which no other group may have. -/
def Reading.openNamed? (s : Reading) (cs : List Char) : Option (Reading × List Char) := do
  let (name, rest) ← groupName? cs
  if s.names.contains name then none
  else return ({ s.openCapture with names := name :: s.names }, rest)

/-- Reads what stands after an opening parenthesis. There is no looking around. -/
def Reading.group? (s : Reading) (cs : List Char) : Option (Reading × List Char) :=
  match skip s.flags.verbose cs with
  | '?' :: '=' :: _ | '?' :: '!' :: _ | '?' :: '<' :: '=' :: _ | '?' :: '<' :: '!' :: _ => none
  | '?' :: 'P' :: '<' :: cs => s.openNamed? cs
  | '?' :: '<' :: cs => s.openNamed? cs
  | '?' :: cs => do
    let (changes, last, rest) ← flagChanges? false false [] cs
    let flags := s.flags.setAll changes
    if last = ':' then return (s.openGroup flags, rest)
    else if changes.isEmpty then none
    else return ({ s with flags, level := s.level.push .flagChange }, rest)
  | cs => some (s.openCapture, cs)

/-- Reads decimal digits, which white space and comments may separate in verbose patterns. -/
def countDigits (verbose : Bool) : List Char → List Char × List Char
  | [] => ([], [])
  | c :: cs =>
    if c.isDigit then
      let (digits, rest) := countDigits verbose (skip verbose cs)
      (c :: digits, rest)
    else ([], c :: cs)
termination_by cs => cs.length
decreasing_by
  have := length_skip_le verbose cs
  simp
  omega

/-- Reads a number below `2 ^ 32`, white space around it aside. -/
def count? (verbose : Bool) (cs : List Char) : Option (Nat × List Char) := do
  let (digits, rest) := countDigits verbose (cs.dropWhile isBlank)
  let n ← (natural? digits).filter (· < 1 <<< 32)
  return (n, rest.dropWhile isBlank)

/-- Reads the bounds of a repetition, up to the closing brace. -/
def bounds? (verbose : Bool) (cs : List Char) : Option (Nat × Option Nat × List Char) := do
  let (least, rest) ← count? verbose (skip verbose cs)
  match rest with
  | '\x7d' :: rest => return (least, some least, rest)
  | ',' :: rest =>
    match skip verbose rest with
    | '\x7d' :: rest => return (least, none, rest)
    | rest =>
      match ← count? verbose rest with
      | (most, '\x7d' :: rest) => if least ≤ most then return (least, some most, rest) else none
      | _ => none
  | _ => none

/-- Repeats the last item and drops the sign of a repetition that prefers to be short. -/
def Reading.repetition? (s : Reading) (least : Nat) (most : Option Nat) :
    List Char → Option (Reading × List Char)
  | '?' :: cs => do return (← s.repeat? least most true, cs)
  | cs => do return (← s.repeat? least most false, cs)

def Reading.atom? (s : Reading) (a : Atom) (rest : List Char) : Option (Reading × List Char) := do
  return (s.push (.ofAtom (← s.flags.atom? a) 0), rest)

def Reading.step? (s : Reading) : List Char → Option (Reading × List Char)
  | [] => none
  | '(' :: cs => s.group? cs
  | ')' :: cs => do return (← s.closeGroup?, cs)
  | '|' :: cs => some ({ s with level := s.level.nextBranch }, cs)
  | '[' :: cs => do
    let (m, rest) ← Bracket.read? s.flags cs
    return (s.push (.ofAtom (.chars m.set) m.depth), rest)
  | '?' :: cs => s.repetition? 0 (some 1) cs
  | '*' :: cs => s.repetition? 0 none cs
  | '+' :: cs => s.repetition? 1 none cs
  | '\x7b' :: cs => do
    let (least, most, rest) ← bounds? s.flags.verbose cs
    s.repetition? least most (skip s.flags.verbose rest)
  | '.' :: cs => s.atom? .any cs
  | '^' :: cs => s.atom? (.anchor .lineStart) cs
  | '$' :: cs => s.atom? (.anchor .lineEnd) cs
  | '\\' :: cs => do
    let (a, rest) ← Atom.escape? s.flags.verbose cs
    s.atom? a rest
  | c :: cs => s.atom? (.char c) cs

/-- Reads the rest of a pattern. Each step takes a character or fails. -/
def Reading.run? (s : Reading) (cs : List Char) : Option Reading :=
  match skip s.flags.verbose cs with
  | [] => some s
  | c :: rest =>
    match s.step? (c :: rest) with
    | none => none
    | some (s, rest) => if rest.length < cs.length then s.run? rest else none
termination_by cs.length

def Reading.finish? (s : Reading) : Option Part :=
  if s.outer.isEmpty then some s.level.content else none

def maxNesting : Nat := 250

def regex? (pattern : List Char) : Option Regex := do
  let p ← (← Reading.run? {} pattern).finish?
  if p.depth ≤ maxNesting && p.layout.fits then return p.regex else none

end LayeredSchema.Pattern
