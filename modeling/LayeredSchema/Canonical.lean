import LayeredSchema.Identifier.Said
import LayeredSchema.Json.Basic

/-!
The canonical encoding of JSON values, which identifiers are computed over.

It is deterministic CBOR: shortest heads, definite lengths, doubles in full, and the entries of a
map in the order of their encoded keys. Arrays keep their order, so data whose order matters is
encoded as arrays and data whose order does not as maps. Main definition: `Canonical.encode`.
-/

namespace LayeredSchema.Canonical

/-- The bytes of a text in UTF-8. -/
def textBytes (s : String) : List UInt8 := s.toUTF8.data.toList

/-- The lowest `width` bytes of a number, the high one first. -/
def bigEndian : Nat → Nat → List UInt8
  | 0, _ => []
  | width + 1, n => UInt8.ofNat (n >>> (8 * width)) :: bigEndian width n

/-- The head of an item: its major type and a number, in the shortest form that holds it. -/
def head (major n : Nat) : List UInt8 :=
  let start := fun low => UInt8.ofNat (32 * major + low)
  if n < 24 then [start n]
  else if n < 1 <<< 8 then start 24 :: bigEndian 1 n
  else if n < 1 <<< 16 then start 25 :: bigEndian 2 n
  else if n < 1 <<< 32 then start 26 :: bigEndian 4 n
  else start 27 :: bigEndian 8 n

def encodeNumber : Number → List UInt8
  | .natural n _ => head 0 n
  | .negative n _ => head 1 n
  | .double x => 0xfb :: bigEndian 8 x.bits

def encodeText (s : String) : List UInt8 := head 3 (textBytes s).length ++ textBytes s

/-- Puts an entry before the first whose key is not less. -/
def placeEntry {α : Type} (e : List UInt8 × α) : List (List UInt8 × α) → List (List UInt8 × α)
  | [] => [e]
  | f :: fs => if f.1 < e.1 then f :: placeEntry e fs else e :: f :: fs

/-- Orders entries by their encoded keys, byte by byte; those with equal keys keep their order. -/
def sortEntries {α : Type} (es : List (List UInt8 × α)) : List (List UInt8 × α) :=
  es.foldr placeEntry []

mutual

/-- The canonical bytes of a value. -/
def encode : Json → List UInt8
  | .null => [0xf6]
  | .bool true => [0xf5]
  | .bool false => [0xf4]
  | .number n => encodeNumber n
  | .string s => encodeText s
  | .array items => head 4 items.length ++ encodeItems items
  | .object entries =>
    head 5 entries.length ++
      (sortEntries (encodeEntries entries)).flatMap fun (key, value) => key ++ value

def encodeItems : List Json → List UInt8
  | [] => []
  | v :: vs => encode v ++ encodeItems vs

def encodeEntries : List (String × Json) → List (List UInt8 × List UInt8)
  | [] => []
  | (k, v) :: es => (encodeText k, encode v) :: encodeEntries es

end

def captureBaseDomain : List UInt8 := textBytes "oca/capture-base/v2"

def overlayDomain : List UInt8 := textBytes "oca/overlay/v2"

def bundleDomain : List UInt8 := textBytes "oca/bundle/v2"

end LayeredSchema.Canonical
