import LayeredSchema.Text.Ascii
import LayeredSchema.Unicode.Additions

/-!
Texts as messages show them: between quotes, on one line, with every character visible.
-/

namespace LayeredSchema.Text

open Unicode

/-- Whether a character has no place of its own: a mark that attaches to the character before it,
or a letter that only fills the place of another. -/
def isAttached (c : Char) : Bool :=
  match Additions.category c with
  | .mn | .me => true
  | .mc => Sets.otherGraphemeExtend.contains c
  | .lo => Sets.defaultIgnorableCodePoint.contains c
  | _ => false

/-- Whether a character shows on paper. Of the separators only the space does. -/
def isPrintable (c : Char) : Bool :=
  match Additions.category c with
  | .cc | .cf | .cs | .co | .cn | .zl | .zp => false
  | .zs => c == ' '
  | _ => true

/-- An escape that names a code point. -/
def codePointEscape (c : Char) : List Char :=
  '\\' :: 'u' :: '\x7b' :: hexNumeral c.toNat ++ ['\x7d']

/-- A character as it stands between two marks `mark`. -/
def escaped (mark c : Char) : List Char :=
  if c = mark || c = '\\' then ['\\', c]
  else if c = '\n' then ['\\', 'n']
  else if c = '\r' then ['\\', 'r']
  else if c = '\t' then ['\\', 't']
  else if c = '\x00' then ['\\', '0']
  else if 0x20 ≤ c.toNat && c.toNat < 0x7f then [c]
  else if isAttached c || !isPrintable c then codePointEscape c
  else [c]

def quoted (s : String) : String :=
  String.ofList ('"' :: s.toList.flatMap (escaped '"') ++ ['"'])

def quotedChar (c : Char) : String :=
  String.ofList ('\'' :: escaped '\'' c ++ ['\''])

end LayeredSchema.Text
