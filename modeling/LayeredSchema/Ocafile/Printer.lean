import LayeredSchema.Ocafile.Basic
import LayeredSchema.Text.Blank

/-!
Writing an OCAfile: keywords in capitals, two spaces for each level of a block, values between
quotes, and an empty line between commands.
-/

namespace LayeredSchema.Ocafile

open Text

/-- A character between quotes. Other characters than these four stand for themselves. -/
def quoteChar (c : Char) : List Char :=
  if c = '"' || c = '\\' then ['\\', c]
  else if c = '\n' then ['\\', 'n']
  else if c = '\t' then ['\\', 't']
  else [c]

def quote (s : String) : List Char := '"' :: s.toList.flatMap quoteChar ++ ['"']

/-- Whether a key reads back when it is written without quotes. -/
def isPlainKey : List Char → Bool
  | [] => false
  | c :: cs => c != '#' && c != '"' && (c :: cs).all fun ch => !isBlank ch && ch != '='

def keyChars (key : String) : List Char :=
  if isPlainKey key.toList then key.toList else quote key

/-- Control characters: those below the space, the delete character and the 32 after it. -/
def isControl (c : Char) : Bool := c.toNat < 0x20 || (0x7f ≤ c.toNat && c.toNat < 0xa0)

/-- Whether a name reads back when it is written without quotes. -/
def isPlainName : List Char → Bool
  | [] => false
  | c :: cs =>
    trim (c :: cs) == c :: cs && c != '"' && (c :: cs).getLast? != some '\\' &&
      !(c :: cs).any isControl

def nameChars (name : String) : List Char :=
  if isPlainName name.toList then name.toList else quote name

def listChars : List String → List Char
  | [] => []
  | [s] => quote s
  | s :: ss => quote s ++ ',' :: ' ' :: listChars ss

mutual

/-- The lines of a property, `depth` levels deep. -/
def propertyChars (depth : Nat) : Property → List Char
  | .mk _ key value => List.replicate (2 * depth) ' ' ++ keyChars key ++ valueChars depth value

def valueChars (depth : Nat) : PropertyValue → List Char
  | .bare => ['\n']
  | .text s => '=' :: quote s ++ ['\n']
  | .list items => '=' :: '[' :: listChars items ++ [']', '\n']
  | .block properties => '\n' :: blockChars (depth + 1) properties

def blockChars (depth : Nat) : List Property → List Char
  | [] => []
  | p :: ps => propertyChars depth p ++ blockChars depth ps

end

def attributeChars (a : String × AttributeType) : List Char :=
  ' ' :: a.1.toList ++ '=' :: a.2.text.toList

/-- Attributes after the first stand on lines of their own, joined by backslashes. -/
def attributesChars : List (String × AttributeType) → List Char
  | [] => []
  | [a] => attributeChars a
  | a :: as => attributeChars a ++ " \\\n   ".toList ++ attributesChars as

def actionChars : Action → List Char
  | .classification value => "ADD CLASSIFICATION ".toList ++ quote value ++ ['\n']
  | .attributes declared => "ADD ATTRIBUTE".toList ++ attributesChars declared ++ ['\n']
  | .overlay name ps => "ADD OVERLAY ".toList ++ name.toList ++ '\n' :: blockChars 1 ps

def commandsChars : List Command → List Char
  | [] => []
  | [c] => actionChars c.action
  | c :: cs => actionChars c.action ++ '\n' :: commandsChars cs

def chars (f : Ocafile) : List Char :=
  match f.name, f.commands with
  | none, cs => commandsChars cs
  | some name, [] => "--name=".toList ++ nameChars name ++ ['\n']
  | some name, cs => "--name=".toList ++ nameChars name ++ '\n' :: '\n' :: commandsChars cs

def text (f : Ocafile) : String := String.ofList f.chars

end LayeredSchema.Ocafile
