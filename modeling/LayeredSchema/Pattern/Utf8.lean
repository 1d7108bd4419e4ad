import LayeredSchema.Pattern.CharSet

/-!
Sets of characters as sequences of ranges of bytes.

The encodings of the characters of an interval are cut into sequences, each of which is all that
takes one byte from each of its ranges in turn. Main definition: `CharSet.sequences`.
-/

namespace LayeredSchema.Pattern

/-- A range of bytes, both ends included. -/
structure ByteRange where
  first : UInt8
  last : UInt8
  deriving DecidableEq, Repr

namespace Interval

/-- The code points whose encodings have one length; no character is a surrogate. -/
def ofOneLength : List Interval :=
  [⟨0, 0x7F⟩, ⟨0x80, 0x7FF⟩, ⟨0x800, 0xD7FF⟩, ⟨0xE000, 0xFFFF⟩, ⟨0x10000, 0x10FFFF⟩]

def inter? (i j : Interval) : Option Interval :=
  let k : Interval := ⟨max i.first j.first, min i.last j.last⟩
  if k.first ≤ k.last then some k else none

/-- Cuts the interval from `a` to `b` at multiples of the sizes of blocks, the smallest first, so
that a piece either lies in one block or consists of whole blocks of the size below. -/
def cut : (sizes : List Nat) → (a b : Nat) → List Interval
  | [], a, b => [⟨a, b⟩]
  | m :: ms, a, b =>
    if a / m = b / m then [⟨a, b⟩]
    else
      let start := (a + m - 1) / m * m
      let stop := (b + 1) / m * m
      let head := if a < start then [⟨a, start - 1⟩] else []
      if start / m = b / m then head ++ [⟨start, b⟩]
      else head ++ cut ms start (stop - 1) ++ if stop ≤ b then [⟨stop, b⟩] else []

/-- The sizes of the blocks of which all but the last one, two or three bytes agree. A character of
one byte has nothing in common with others. -/
def blockSizes (i : Interval) : List Nat := if i.last < 0x80 then [] else [64, 4096, 262144]

/-- The ranges between the bytes of the first character and those of the last. -/
def byteRanges (i : Interval) : List ByteRange :=
  List.zipWith ByteRange.mk (String.utf8EncodeChar (Char.ofNat i.first))
    (String.utf8EncodeChar (Char.ofNat i.last))

def sequences (i : Interval) : List (List ByteRange) :=
  (ofOneLength.filterMap i.inter?).flatMap fun j =>
    (cut j.blockSizes j.first j.last).map byteRanges

end Interval

/-- The encodings of the characters of a set, in order. -/
def CharSet.sequences (s : CharSet) : List (List ByteRange) :=
  s.intervals.flatMap Interval.sequences

end LayeredSchema.Pattern
