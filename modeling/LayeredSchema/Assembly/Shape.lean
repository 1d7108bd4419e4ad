import LayeredSchema.Ocafile.Basic
import LayeredSchema.Overlay.Kind
import LayeredSchema.Text.Quoted

/-!
How the properties of an overlay command stand for payload values: the keys that each built-in
kind defines, and the shapes of what stands under them.
-/

namespace LayeredSchema

inductive Shape
  | text
  | textTable
  | textTableTable
  | listTable
  | list
  deriving DecidableEq, Repr

/-- The keys of a kind with the shapes of their values. Kinds without a table take any key. -/
def Kind.shapes? : Kind → Option (List (String × Shape))
  | .metadata | .custom => none
  | .label => some [("attribute_labels", .textTable)]
  | .information => some [("attribute_information", .textTable)]
  | .entry => some [("attribute_entries", .textTableTable)]
  | .characterEncoding =>
    some [("default_character_encoding", .text), ("attribute_character_encodings", .textTable)]
  | .format => some [("attribute_formats", .textTable)]
  | .unit => some [("metric_system", .text), ("attribute_units", .textTable)]
  | .cardinality => some [("attribute_cardinalities", .textTable)]
  | .entryCode => some [("attribute_entry_codes", .listTable)]
  | .sensitive => some [("attributes", .list)]
  | .standard => some [("attribute_standards", .textTable)]
  | .mapping => some [("attribute_mappings", .textTable)]
  | .conformance => some [("attribute_conformances", .textTable)]
  | .conditional =>
    some [("attribute_conditions", .textTable), ("attribute_dependencies", .listTable)]
  | .link => some [("target_bundle", .text), ("attribute_mapping", .textTable)]
  | .entryCodeMapping => some [("attribute_entry_codes_mapping", .listTable)]

end LayeredSchema
