import LayeredSchema.Canonical.Item
import LayeredSchema.Proofs.Canonical.Head

/-!
Reading data items from bytes.

Nothing of the canonical form is asked for: a head may have any width that holds its number, the
keys of a map may be any items in any order. Items of indefinite length, floats shorter than
doubles, and simple values besides the truth values and null are not read. Main definitions:
`item?` and `decode?`.
-/

namespace LayeredSchema.Canonical

/-- The first byte of an item, in its two parts, and the number that is in it or after it. -/
structure Head where
  major : ℕ
  info : ℕ
  number : ℕ

def takeBytes? (n : ℕ) (bs : List UInt8) : Option (List UInt8 × List UInt8) :=
  if n ≤ bs.length then some (bs.take n, bs.drop n) else none

def readHead? : List UInt8 → Option (Head × List UInt8)
  | [] => none
  | b :: bs =>
    let info := b.toNat % 32
    if info < 24 then some (⟨b.toNat / 32, info, info⟩, bs)
    else if info < 28 then
      (takeBytes? (extent info) bs).map fun (x, rest) => (⟨b.toNat / 32, info, value x⟩, rest)
    else none

def readText? (bs : List UInt8) : Option String := String.fromUTF8? ⟨bs.toArray⟩

def simple? (h : Head) : Option Item :=
  match h.info with
  | 20 => some (.bool false)
  | 21 => some (.bool true)
  | 22 => some .null
  | 27 => some (.float (UInt64.ofNat h.number))
  | _ => none

mutual

def item? (bs : List UInt8) : Option (Item × List UInt8) :=
  match readHead? bs with
  | none => none
  | some (h, rest) => if rest.length < bs.length then content? h rest else none
termination_by (bs.length, 0)

/-- The item with a head, of which the rest is at the start of bytes. -/
def content? (h : Head) (bs : List UInt8) : Option (Item × List UInt8) :=
  match h.major with
  | 0 => some (.integer h.number, bs)
  | 1 => some (.integer (-1 - h.number), bs)
  | 2 => (takeBytes? h.number bs).map fun (x, rest) => (.row x, rest)
  | 3 => do
    let (x, rest) ← takeBytes? h.number bs
    return (.text (← readText? x), rest)
  | 4 => (items? h.number bs).map fun (is, rest) => (.array is, rest)
  | 5 => (entries? h.number bs).map fun (es, rest) => (.map es, rest)
  | 6 => (item? bs).map fun (i, rest) => (.tagged h.number i, rest)
  | _ => (simple? h).map fun i => (i, bs)
termination_by (bs.length, 2)

def items? : ℕ → List UInt8 → Option (List Item × List UInt8)
  | 0, bs => some ([], bs)
  | n + 1, bs =>
    match item? bs with
    | none => none
    | some (i, rest) =>
      if rest.length < bs.length then (items? n rest).map fun (is, rest) => (i :: is, rest)
      else none
termination_by _ bs => (bs.length, 1)

def entries? : ℕ → List UInt8 → Option (List (Item × Item) × List UInt8)
  | 0, bs => some ([], bs)
  | n + 1, bs =>
    match item? bs with
    | none => none
    | some (k, rest) =>
      if rest.length < bs.length then
        match item? rest with
        | none => none
        | some (v, rest') =>
          if rest'.length < rest.length then
            (entries? n rest').map fun (es, rest) => ((k, v) :: es, rest)
          else none
      else none
termination_by _ bs => (bs.length, 1)

end

def double? (bits : ℕ) : Option Double :=
  Double.ofMagnitude? (1 <<< 63 ≤ bits) (bits % 1 <<< 63)

namespace Item

mutual

def toJson? : Item → Option Json
  | .integer i =>
    if 0 ≤ i then
      if h : i.toNat < 1 <<< 64 then some (.number (.natural i.toNat h)) else none
    else if h : (-1 - i).toNat < 1 <<< 63 then some (.number (.negative (-1 - i).toNat h))
    else none
  | .text s => some (.string s)
  | .array items => (itemsToJson? items).map .array
  | .map entries => (entriesToJson? entries).map .object
  | .bool b => some (.bool b)
  | .null => some .null
  | .float bits => (double? bits.toNat).map fun x => .number (.double x)
  | .row _ | .tagged _ _ => none

def itemsToJson? : List Item → Option (List Json)
  | [] => some []
  | i :: is => do return (← toJson? i) :: (← itemsToJson? is)

def entriesToJson? : List (Item × Item) → Option (List (String × Json))
  | [] => some []
  | (.text k, v) :: es => do return (k, ← toJson? v) :: (← entriesToJson? es)
  | _ :: _ => none

end

end Item

def decode? (bs : List UInt8) : Option Json :=
  match item? bs with
  | some (i, []) => i.toJson?
  | _ => none

end LayeredSchema.Canonical
