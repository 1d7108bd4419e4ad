import LayeredSchema.Text.Blank

/-!
Logical lines: the lines of a text, joined where one ends in a backslash.
-/

namespace LayeredSchema.Ocafile

open Text

/-- A logical line, with the number of the line it starts on. -/
structure LogicalLine where
  number : Nat
  text : List Char
  deriving DecidableEq, Repr

/-- A line whose first character that is no blank is a number sign. -/
def isComment (line : List Char) : Bool :=
  match trimLeft line with
  | '#' :: _ => true
  | _ => false

/-- What stands before the backslash, if the next line continues this one. -/
def continued? (line : List Char) : Option (List Char) := dropLastChar? '\\' (trimRight line)

def LogicalLine.append (l : LogicalLine) (more : List Char) : LogicalLine :=
  { l with text := l.text ++ ' ' :: trim more }

/-- Joins lines, the first of them being number `n`; `pending` is the line they continue. A comment
is dropped unless it continues a line, and never continues itself. -/
def joinLines : Nat → Option LogicalLine → List (List Char) → List LogicalLine
  | _, pending, [] => pending.toList
  | n, none, line :: lines =>
    if isComment line then joinLines (n + 1) none lines
    else
      match continued? line with
      | some start => joinLines (n + 1) (some ⟨n, start⟩) lines
      | none => ⟨n, line⟩ :: joinLines (n + 1) none lines
  | n, some l, line :: lines =>
    match continued? line with
    | some part => joinLines (n + 1) (some (l.append part)) lines
    | none => l.append line :: joinLines (n + 1) none lines

def logicalLines (text : List Char) : List LogicalLine := joinLines 1 none (lines text)

end LayeredSchema.Ocafile
