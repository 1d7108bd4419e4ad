import LayeredSchema.Text.Ascii
import LayeredSchema.Text.Blank

/-!
Overlay kinds and type tags.

A type tag is `overlay/<slug>/<version>`. The tags of the built-in kinds are fixed; any other tag
of this form belongs to a custom kind.
-/

namespace LayeredSchema

open Text

/-- Overlay kinds: sixteen with a typed payload, and the custom ones. -/
inductive Kind
  | metadata
  | label
  | information
  | entry
  | characterEncoding
  | format
  | unit
  | cardinality
  | entryCode
  | sensitive
  | standard
  | mapping
  | conformance
  | conditional
  | link
  | entryCodeMapping
  | custom
  deriving DecidableEq, Repr

namespace Kind

/-- The kinds with a typed payload, in listing order. -/
def builtin : List Kind :=
  [.metadata, .label, .information, .entry, .characterEncoding, .format, .unit, .cardinality,
    .entryCode, .sensitive, .standard, .mapping, .conformance, .conditional, .link,
    .entryCodeMapping]

def name : Kind → String
  | .metadata => "Meta"
  | .label => "Label"
  | .information => "Information"
  | .entry => "Entry"
  | .characterEncoding => "CharacterEncoding"
  | .format => "Format"
  | .unit => "Unit"
  | .cardinality => "Cardinality"
  | .entryCode => "EntryCode"
  | .sensitive => "Sensitive"
  | .standard => "Standard"
  | .mapping => "Mapping"
  | .conformance => "Conformance"
  | .conditional => "Conditional"
  | .link => "Link"
  | .entryCodeMapping => "EntryCodeMapping"
  | .custom => "Custom"

def slug : Kind → String
  | .metadata => "meta"
  | .label => "label"
  | .information => "information"
  | .entry => "entry"
  | .characterEncoding => "character_encoding"
  | .format => "format"
  | .unit => "unit"
  | .cardinality => "cardinality"
  | .entryCode => "entry_code"
  | .sensitive => "sensitive"
  | .standard => "standard"
  | .mapping => "mapping"
  | .conformance => "conformance"
  | .conditional => "conditional"
  | .link => "link"
  | .entryCodeMapping => "entry_code_mapping"
  | .custom => "custom"

/-- Whether overlays of the kind are written in one language. A registry decides this for custom
kinds. -/
def isLanguageScoped : Kind → Bool
  | .metadata | .label | .information | .entry => true
  | _ => false

def builtinVersion : String := "2.0.0"

/-- The type tag of a kind with this slug and version. -/
def tagOf (slug version : String) : String := "overlay/" ++ slug ++ "/" ++ version

def tag? : Kind → Option String
  | .custom => none
  | k => some (tagOf k.slug builtinVersion)

def ofTag? (tag : String) : Option Kind := builtin.find? (·.tag? == some tag)

def ofSlug? (slug : String) : Option Kind := builtin.find? (·.slug == slug)

/-- The slug of a custom kind's name: hyphens and spaces become underscores, letters lower case. -/
def customSlug (name : String) : String :=
  String.ofList (name.toList.map fun c => if c = '-' || c = ' ' then '_' else c.toLower)

def customTag (name version : String) : String := tagOf (customSlug name) version

def tagStem : List Char := "overlay/".toList

def isOverlayTag (tag : String) : Bool := (dropStem? tagStem tag.toList).isSome

end Kind

end LayeredSchema
