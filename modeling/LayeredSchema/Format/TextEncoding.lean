import LayeredSchema.Text.Ascii
import LayeredSchema.Text.Blank

/-!
Character encodings, so far as they restrict what a text may hold.
-/

namespace LayeredSchema

open Text

inductive TextEncoding
  | utf8
  | ascii
  | latin1
  | base64
  deriving DecidableEq, Repr

namespace TextEncoding

/-- The encoding that a label names, in any case. Labels of other encodings name none. -/
def ofLabel? (label : String) : Option TextEncoding :=
  let l := lowered (trimmed label)
  if l = "utf-8" || l = "utf8" then some .utf8
  else if l = "ascii" || l = "us-ascii" then some .ascii
  else if l = "iso-8859-1" || l = "latin1" || l = "latin-1" then some .latin1
  else if l = "base64" then some .base64
  else none

/-- The six bits that a character of the base 64 alphabet stands for. -/
def sextet? (c : Char) : Option Nat :=
  if c.isUpper then some (c.toNat - 'A'.toNat)
  else if c.isLower then some (c.toNat - 'a'.toNat + 26)
  else if c.isDigit then some (c.toNat - '0'.toNat + 52)
  else if c = '+' then some 62
  else if c = '/' then some 63
  else none

/-- Whether the last character before padding leaves the bits unused that must be zero. -/
def endsIn (unused : Nat) (c : Char) : Bool := (sextet? c).any (· % unused == 0)

/-- Base 64 in groups of four, the last one padded with equals signs. -/
def isBase64 : List Char → Bool
  | [] => true
  | [a, b, '=', '='] => (sextet? a).isSome && endsIn 16 b
  | [a, b, c, '='] => (sextet? a).isSome && (sextet? b).isSome && endsIn 4 c
  | a :: b :: c :: d :: cs => [a, b, c, d].all (sextet? · |>.isSome) && isBase64 cs
  | _ => false

def accepts (e : TextEncoding) (value : String) : Bool :=
  match e with
  | .utf8 => true
  | .ascii => value.toList.all isAscii
  | .latin1 => value.toList.all (·.toNat < 256)
  | .base64 => isBase64 value.toList

end TextEncoding

end LayeredSchema
