import LayeredSchema.Pattern.Reader

/-!
Text patterns: regular expressions that a value must match as a whole.
-/

namespace LayeredSchema

structure TextPattern where
  regex : Pattern.Regex
  deriving DecidableEq, Repr

namespace TextPattern

/-- A pattern between marks for the start and the end of a text. -/
def anchored (pattern : String) : List Char :=
  ['^', '(', '?', ':'] ++ pattern.toList ++ [')', '$']

def parse? (pattern : String) : Option TextPattern :=
  (Pattern.regex? (anchored pattern)).map TextPattern.mk

def admits (p : TextPattern) (value : String) : Bool := p.regex.finds value.toList

end TextPattern

end LayeredSchema
