import LayeredSchema.AttributeType
import LayeredSchema.Canonical

/-!
Capture bases: the attributes of a bundle with their types, and a classification.

Attributes keep the order of their declaration, which the address does not depend on, as maps are
encoded in an order of their own. Main definitions: `Attributes`, `CaptureBase`,
`CaptureBase.Draft`.
-/

namespace LayeredSchema

/-- Attributes with distinct names, in the order of their declaration. -/
structure Attributes where
  entries : Entries AttributeType
  nodup : entries.names.Nodup
  deriving DecidableEq

namespace Attributes

def empty : Attributes := ⟨[], List.nodup_nil⟩

instance : EmptyCollection Attributes := ⟨empty⟩

def get? (as : Attributes) (name : String) : Option AttributeType := as.entries.get? name

def contains (as : Attributes) (name : String) : Bool := as.entries.contains name

def replace (name : String) (t : AttributeType) (es : Entries AttributeType) :
    Entries AttributeType :=
  es.map fun e => if e.1 == name then (e.1, t) else e

theorem names_replace (name : String) (t : AttributeType) (es : Entries AttributeType) :
    (replace name t es).names = es.names := by
  simp only [replace, Entries.names, List.map_map]
  refine List.map_congr_left fun e _ => ?_
  simp only [Function.comp]
  split <;> rfl

/-- Declares an attribute. One that is declared already takes the new type and keeps its place. -/
def declare (as : Attributes) (name : String) (t : AttributeType) : Attributes :=
  if h : as.contains name then
    ⟨replace name t as.entries, by rw [names_replace]; exact as.nodup⟩
  else
    ⟨as.entries ++ [(name, t)], by
      have hn : name ∉ as.entries.names := by
        simpa [contains, Entries.contains, Entries.names] using h
      simpa [Entries.names, List.nodup_append] using
        ⟨as.nodup, fun x t hx hxn => hn (List.mem_map.2 ⟨(x, t), hx, hxn⟩)⟩⟩

def ofList (es : Entries AttributeType) : Attributes :=
  es.foldl (fun as e => as.declare e.1 e.2) ∅

def toJson (as : Attributes) : Json := .object (as.entries.map fun (name, t) => (name, t.toJson))

/-- Decodes the entries in the order they are written in; of a repeated name the first place and
the last type count. -/
def ofJson (v : Json) : Except Json.Fault Attributes := do
  let es ← (← v.toEntries).mapM fun (name, v) => do return (name, ← AttributeType.ofJson v)
  return ofList es

end Attributes

/-- A capture base with its address. `schemaType` marks the kind and version of the document. -/
structure CaptureBase where
  digest : Said
  schemaType : String
  classification : String
  attributes : Attributes
  deriving DecidableEq

namespace CaptureBase

def currentType : String := "capture_base/2.0.0"

def content (schemaType classification : String) (attributes : Attributes) : Json :=
  .object [("type", .string schemaType), ("classification", .string classification),
    ("attributes", attributes.toJson)]

def addressOf (schemaType classification : String) (attributes : Attributes) : Said :=
  .compute Canonical.captureBaseDomain
    (Canonical.encode (content schemaType classification attributes))

def computedDigest (b : CaptureBase) : Said :=
  addressOf b.schemaType b.classification b.attributes

def attribute? (b : CaptureBase) (name : String) : Option AttributeType := b.attributes.get? name

def hasAttribute (b : CaptureBase) (name : String) : Bool := b.attributes.contains name

structure Draft where
  classification : String := ""
  attributes : Attributes := ∅

namespace Draft

def classify (d : Draft) (classification : String) : Draft := { d with classification }

def declare (d : Draft) (name : String) (t : AttributeType) : Draft :=
  { d with attributes := d.attributes.declare name t }

def hasAttribute (d : Draft) (name : String) : Bool := d.attributes.contains name

def build (d : Draft) : CaptureBase :=
  ⟨addressOf currentType d.classification d.attributes, currentType, d.classification, d.attributes⟩

end Draft

def toJson (b : CaptureBase) : Json :=
  .object [("digest", .string b.digest.text), ("type", .string b.schemaType),
    ("classification", .string b.classification), ("attributes", b.attributes.toJson)]

/-- The fields of a wire object that were read so far. -/
structure Fields where
  digest : Option Said := none
  schemaType : Option String := none
  classification : Option String := none
  attributes : Option Attributes := none

def decodeSaid (v : Json) : Except Json.Fault Said := do
  (Said.parse (← v.toText)).mapError fun e => .refused e.message

/-- Reads one more field; fields of other names are skipped. -/
def Fields.read (f : Fields) : String × Json → Except Json.Fault Fields
  | ("digest", v) => do
    return { f with digest := ← Json.setOnce "digest" f.digest (decodeSaid v) }
  | ("type", v) => do
    return { f with schemaType := ← Json.setOnce "type" f.schemaType v.toText }
  | ("classification", v) => do
    return { f with
      classification := ← Json.setOnce "classification" f.classification v.toText }
  | ("attributes", v) => do
    return { f with attributes := ← Json.setOnce "attributes" f.attributes (Attributes.ofJson v) }
  | _ => return f

def Fields.finish (f : Fields) : Except Json.Fault CaptureBase := do
  return ⟨← Json.require "digest" f.digest, ← Json.require "type" f.schemaType,
    f.classification.getD "", f.attributes.getD ∅⟩

/-- Decodes the wire form: an object, or an array of the fields in order, of which the
classification and the attributes may be left out. -/
def ofJson : Json → Except Json.Fault CaptureBase
  | .object entries => do (← entries.foldlM Fields.read {}).finish
  | .array items => do
    let expected := "struct CaptureBase with 4 elements"
    let digest ← Json.element items 0 expected decodeSaid
    let schemaType ← Json.element items 1 expected Json.toText
    let classification ← Json.elementOr items 2 "" Json.toText
    let attributes ← Json.elementOr items 3 ∅ Attributes.ofJson
    Json.endAt items 4
    return ⟨digest, schemaType, classification, attributes⟩
  | v => .error (.wrongType v "struct CaptureBase")

def shape : Json.Shape :=
  .fields [("digest", .whole), ("type", .whole), ("classification", .whole),
    ("attributes", .whole)]

end CaptureBase

end LayeredSchema
