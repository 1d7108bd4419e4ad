import LayeredSchema.Pattern.Flags

/-!
Classes in brackets, such as `[a-z&&[^aeiou]]`.

A class is a union of items, or such unions combined by `&&` (intersection), `--` (difference) and
`~~` (symmetric difference), which bind alike and to the left. An item is a character, a range, an
escape, a named class such as `[:alpha:]`, or another class in brackets.
-/

namespace LayeredSchema.Pattern

open Text

namespace Bracket

/-- A set with the depth to which what it was read from nests. -/
structure Measured where
  set : CharSet
  depth : Nat

inductive Operation
  | intersection
  | difference
  | symmetricDifference
  deriving DecidableEq, Repr

def Operation.apply (s t : CharSet) : Operation → CharSet
  | .intersection => s.inter t
  | .difference => s.diff t
  | .symmetricDifference => s.symmDiff t

structure Items where
  set : CharSet := .empty
  count : Nat := 0
  depth : Nat := 0

def Items.add (is : Items) (s : CharSet) (depth : Nat) : Items :=
  ⟨is.set.union s, is.count + 1, max is.depth depth⟩

/-- The union; it counts as a level if it has several items. -/
def Items.union (is : Items) : Measured :=
  ⟨is.set, if is.count ≤ 1 then is.depth else is.depth + 1⟩

inductive Frame
  /-- A bracket that is not closed, with the items around it. -/
  | bracket (around : Items) (negated : Bool)
  | operand (op : Operation) (left : Measured)

def namedSets : List (String × CharSet) :=
  [("alnum", .ofRanges [('0', '9'), ('A', 'Z'), ('a', 'z')]),
    ("alpha", .ofRanges [('A', 'Z'), ('a', 'z')]), ("ascii", ⟨[⟨0, 127⟩]⟩),
    ("blank", .ofRanges [('\t', '\t'), (' ', ' ')]), ("cntrl", ⟨[⟨0, 31⟩, ⟨127, 127⟩]⟩),
    ("digit", Flags.asciiDigits), ("graph", .range '!' '~'), ("lower", .range 'a' 'z'),
    ("print", .range ' ' '~'),
    ("punct", .ofRanges [('!', '/'), (':', '@'), ('[', '\x60'), ('\x7b', '~')]),
    ("space", Flags.asciiSpaces), ("upper", .range 'A' 'Z'), ("word", Flags.asciiWord),
    ("xdigit", .ofRanges [('0', '9'), ('A', 'F'), ('a', 'f')])]

/-- Reads a named class after its bracket, and whether it is negated. Anything else is no failure,
but the start of a class. -/
def named? : List Char → Option (CharSet × Bool × List Char)
  | ':' :: cs => do
    let (negated, cs) := match cs with
      | '^' :: cs => (true, cs)
      | cs => (false, cs)
    let s ← namedSets.lookup (String.ofList (cs.takeWhile (· != ':')))
    match cs.dropWhile (· != ':') with
    | ':' :: ']' :: rest => return (s, negated, rest)
    | _ => none
  | _ => none

def dropHyphens (verbose : Bool) : List Char → Nat × List Char
  | '-' :: cs =>
    let (n, rest) := dropHyphens verbose (skip verbose cs)
    (n + 1, rest)
  | cs => (0, cs)
termination_by cs => cs.length
decreasing_by
  have := length_skip_le verbose cs
  simp
  omega

/-- The start of a class after its bracket: whether it is negated, and the items that only stand
here, hyphens or else a closing bracket. -/
def start? (verbose : Bool) (cs : List Char) : Option (Bool × Items × List Char) :=
  let (negated, cs) := match skip verbose cs with
    | '^' :: cs => (true, skip verbose cs)
    | cs => (false, cs)
  match dropHyphens verbose cs with
  | (_, []) => none
  | (0, ']' :: rest) => some (negated, ({} : Items).add (.single ']') 0, rest)
  | (n, rest) =>
    some (negated, (List.replicate n '-').foldl (fun is c => is.add (.single c) 0) {}, rest)

/-- Reads a character or an escape. -/
def atom? (verbose : Bool) : List Char → Option (Atom × List Char)
  | [] => none
  | '\\' :: cs => Atom.escape? verbose cs
  | c :: cs => some (.char c, cs)

/-- The character after the first, white space and a number sign aside. -/
def peek? (verbose : Bool) (cs : List Char) : Option Char :=
  if verbose then
    match cs.dropWhile isBlank with
    | '#' :: cs => (cs.dropWhile isBlank).head?
    | cs => cs.head?
  else cs.head?

/-- Reads an atom or a range. A hyphen makes no range before a closing bracket or another hyphen. -/
def item? (f : Flags) (cs : List Char) : Option (CharSet × List Char) := do
  let (first, rest) ← atom? f.verbose cs
  let alone := (f.member? first).map fun s => (s, rest)
  match skip f.verbose rest with
  | [] => none
  | '-' :: rest =>
    let next := peek? f.verbose rest
    if next == some ']' || next == some '-' then alone
    else
      let (last, rest) ← atom? f.verbose (skip f.verbose rest)
      match first, last with
      | .literal a _, .literal b _ =>
        let _ ← f.member? first
        let _ ← f.member? last
        if a ≤ b then return (.range a b, rest) else none
      | _, _ => none
  | _ => alone

/-- Ends the operation whose right side is `m`, if there is one. -/
def operate (f : Flags) (m : Measured) : List Frame → Measured × List Frame
  | .operand op left :: frames =>
    (⟨op.apply (f.fold left.set) (f.fold m.set), max left.depth m.depth + 1⟩, frames)
  | frames => (m, frames)

/-- What is being read: items within the frames around them, or a class that is complete. -/
inductive State
  | within (items : Items) (frames : List Frame)
  | complete (m : Measured)

def close? (f : Flags) (items : Items) (frames : List Frame) : Option State := do
  let (m, frames) := operate f items.union frames
  match frames with
  | .bracket around negated :: outer =>
    let s ← f.classSet? negated m.set
    if outer.isEmpty then return .complete ⟨s, m.depth + 1⟩
    else return .within (around.add s (m.depth + 1)) outer
  | _ => none

def beginOperand (f : Flags) (op : Operation) (items : Items) (frames : List Frame) : State :=
  let (m, frames) := operate f items.union frames
  .within {} (.operand op m :: frames)

def step? (f : Flags) (items : Items) (frames : List Frame) : List Char → Option (State × List Char)
  | '[' :: cs =>
    match named? cs with
    | some (s, negated, rest) => do
      return (.within (items.add (← f.classSet? negated s) 0) frames, rest)
    | none => do
      let (negated, inner, rest) ← start? f.verbose cs
      return (.within inner (.bracket items negated :: frames), rest)
  | ']' :: cs => do return (← close? f items frames, cs)
  | '&' :: '&' :: cs => some (beginOperand f .intersection items frames, cs)
  | '-' :: '-' :: cs => some (beginOperand f .difference items frames, cs)
  | '~' :: '~' :: cs => some (beginOperand f .symmetricDifference items frames, cs)
  | cs => do
    let (s, rest) ← item? f cs
    return (.within (items.add s 0) frames, rest)

/-- Reads the rest of a class. Each step takes a character or fails. -/
def run? (f : Flags) (items : Items) (frames : List Frame) (cs : List Char) :
    Option (Measured × List Char) :=
  match step? f items frames (skip f.verbose cs) with
  | none => none
  | some (.complete m, rest) => some (m, rest)
  | some (.within items frames, rest) =>
    if rest.length < cs.length then run? f items frames rest else none
termination_by cs.length

def read? (f : Flags) (cs : List Char) : Option (Measured × List Char) := do
  let (negated, items, rest) ← start? f.verbose cs
  run? f items [.bracket {} negated] rest

end Bracket

end LayeredSchema.Pattern
