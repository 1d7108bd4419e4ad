import LayeredSchema.Canonical

/-!
Data items: all that the binary format can say, of which JSON values need a part.

The canonical encoding is defined on the items that stand for JSON values. Rows of bytes and tagged
items have none, and neither has an item with one of them in it. Main definitions: `Item.ofJson`,
`Item.bytes`.
-/

namespace LayeredSchema.Canonical

inductive Item
  | integer (i : Int)
  | row (bytes : List UInt8)
  | text (s : String)
  | array (items : List Item)
  | map (entries : List (Item × Item))
  | tagged (tag : Nat) (item : Item)
  | bool (b : Bool)
  | null
  | float (bits : UInt64)

namespace Item

mutual

def ofJson : Json → Item
  | .null => .null
  | .bool b => .bool b
  | .number (.natural n _) => .integer n
  | .number (.negative n _) => .integer (-1 - n)
  | .number (.double x) => .float (UInt64.ofNat x.bits)
  | .string s => .text s
  | .array items => .array (ofItems items)
  | .object entries => .map (ofEntries entries)

def ofItems : List Json → List Item
  | [] => []
  | v :: vs => ofJson v :: ofItems vs

def ofEntries : List (String × Json) → List (Item × Item)
  | [] => []
  | (k, v) :: es => (.text k, ofJson v) :: ofEntries es

end

/-- Why an item has no canonical bytes: this item is not among those that values need. -/
structure Unsupported where
  item : Item

mutual

/-- The canonical bytes of an item. Those of the keys of a map come before those of its values, and
the values are taken in the order of the keys. -/
def bytes : Item → Except Unsupported (List UInt8)
  | .integer i => .ok (if 0 ≤ i then head 0 i.toNat else head 1 (-1 - i).toNat)
  | .text s => .ok (encodeText s)
  | .array items => do return head 4 items.length ++ (← itemsBytes items)
  | .map entries => do
    let keyed ← keyedBytes entries
    let parts ← (sortEntries keyed).mapM fun (key, value) => do return key ++ (← value)
    return head 5 keyed.length ++ parts.flatten
  | .bool b => .ok [if b then 0xf5 else 0xf4]
  | .null => .ok [0xf6]
  | .float bits => .ok (0xfb :: bigEndian 8 bits.toNat)
  | .row bs => .error ⟨.row bs⟩
  | .tagged tag item => .error ⟨.tagged tag item⟩

def itemsBytes : List Item → Except Unsupported (List UInt8)
  | [] => .ok []
  | i :: is => do return (← bytes i) ++ (← itemsBytes is)

def keyedBytes : List (Item × Item) →
    Except Unsupported (List (List UInt8 × Except Unsupported (List UInt8)))
  | [] => .ok []
  | (k, v) :: es => do return (← bytes k, bytes v) :: (← keyedBytes es)

end

end Item

end LayeredSchema.Canonical
