import LayeredSchema.Text.Blank
import LayeredSchema.Text.Quoted

/-!
Bytes written as pairs of hexadecimal digits.
-/

namespace LayeredSchema.Hex

open Text

inductive Fault
  | oddLength
  | invalidDigit (shown : Char) (position : Nat)
  deriving DecidableEq, Repr

def Fault.message : Fault → String
  | .oddLength => "Odd number of digits"
  | .invalidDigit c i => s!"Invalid character {quotedChar c} at position {i}"

def encodeByte (b : UInt8) : List Char :=
  [hexDigit (b.toNat / 16), hexDigit (b.toNat % 16)]

/-- Two lower-case digits for each byte. -/
def encode (bytes : List UInt8) : List Char := bytes.flatMap encodeByte

/-- The first byte of a character in UTF-8, as the character with that number. -/
def leadByte (c : Char) : Char := Char.ofNat ((String.utf8EncodeChar c).headD 0).toNat

/-- The values of the digits, the position of the first one being `i`. -/
def digits (i : Nat) : List Char → Except Fault (List Nat)
  | [] => .ok []
  | c :: cs =>
    match hexDigit? c with
    | none => .error (.invalidDigit (leadByte c) i)
    | some d => (digits (i + 1) cs).map (d :: ·)

def pairs : List Nat → List UInt8
  | hi :: lo :: ds => UInt8.ofNat (16 * hi + lo) :: pairs ds
  | _ => []

/-- The bytes that the digits stand for. The length, in bytes, is looked at first. -/
def decode (cs : List Char) : Except Fault (List UInt8) :=
  if byteLength cs % 2 = 1 then .error .oddLength else (digits 0 cs).map pairs

end LayeredSchema.Hex
