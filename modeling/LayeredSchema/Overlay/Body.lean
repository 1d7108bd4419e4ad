import LayeredSchema.Json.Decoding
import LayeredSchema.Overlay.Kind

/-!
The payloads of overlays.

A payload is a table of JSON values under keys that its kind defines. `Body.ofPayload` decodes it:
built-in kinds refuse keys that they do not define, custom kinds keep any payload as it is.
`Body.toPayload` writes it back, with empty tables where nothing was given.
-/

namespace LayeredSchema

open Text

/-- A set of names, in order. -/
abbrev NameSet := Table Unit

def NameSet.ofList (names : List String) : NameSet := Table.ofList (names.map fun n => (n, ()))

structure CustomTag where
  text : String
  isOverlayTag : Kind.isOverlayTag text = true
  notBuiltin : Kind.ofTag? text = none
  deriving DecidableEq

/-- The payload of an overlay. Tables go from attribute names to what is said of the attribute. -/
inductive Body
  /-- Free texts about the bundle, such as its name and description. -/
  | metadata (texts : Table String)
  | label (labels : Table String)
  | information (texts : Table String)
  | entry (texts : Table (Table String))
  | characterEncoding (general : Option String) (encodings : Table String)
  | format (patterns : Table String)
  | unit (system : Option String) (units : Table String)
  /-- Ranges are kept as text, so that a malformed one is a finding and no failure to decode. -/
  | cardinality (ranges : Table String)
  /-- For each attribute, the allowed codes in the order of their declaration. -/
  | entryCode (codes : Table (List String))
  | sensitive (attributes : NameSet)
  | standard (standards : Table String)
  | mapping (targets : Table String)
  | conformance (levels : Table String)
  | conditional (conditions : Table String) (dependencies : Table (List String))
  /-- The target should be the identifier of a bundle, but is kept as text. -/
  | link (target : Option String) (attributes : Table String)
  /-- For each attribute, pairs of a code and its target with a colon between them. -/
  | entryCodeMapping (pairs : Table (List String))
  | custom (tag : CustomTag) (properties : Table Json)
  deriving DecidableEq

namespace Body

def kind : Body → Kind
  | .metadata _ => .metadata
  | .label _ => .label
  | .information _ => .information
  | .entry _ => .entry
  | .characterEncoding _ _ => .characterEncoding
  | .format _ => .format
  | .unit _ _ => .unit
  | .cardinality _ => .cardinality
  | .entryCode _ => .entryCode
  | .sensitive _ => .sensitive
  | .standard _ => .standard
  | .mapping _ => .mapping
  | .conformance _ => .conformance
  | .conditional _ _ => .conditional
  | .link _ _ => .link
  | .entryCodeMapping _ => .entryCodeMapping
  | .custom _ _ => .custom

def tag : Body → String
  | .custom tag _ => tag.text
  | b => Kind.tagOf b.kind.slug Kind.builtinVersion

/-- The attributes that a custom payload refers to: the names in every object under a key that
starts with `attribute_`. -/
def customReferences (properties : Table Json) : List String :=
  properties.entries.flatMap fun (key, v) =>
    match dropStem? "attribute_".toList key.toList, v.asEntries? with
    | some _, some entries => Entries.names entries
    | _, _ => []

def references : Body → List String
  | .metadata _ => []
  | .label t | .information t | .format t | .cardinality t | .standard t | .mapping t
  | .conformance t | .characterEncoding _ t | .unit _ t | .link _ t => t.names
  | .entry t => t.names
  | .entryCode t | .entryCodeMapping t => t.names
  | .sensitive names => names.names
  | .conditional conditions dependencies =>
    conditions.names ++ dependencies.names.filter fun a => !conditions.contains a
  | .custom _ properties => customReferences properties

def lists (t : Table (List String)) : Json :=
  .object (t.entries.map fun (a, codes) => (a, Json.ofTexts codes))

def tables (t : Table (Table String)) : Json :=
  .object (t.entries.map fun (a, texts) => (a, Json.ofTextTable texts))

def optionalText (key : String) : Option String → List (String × Json)
  | some s => [(key, .string s)]
  | none => []

def toPayload : Body → Table Json
  | .metadata texts => .ofList (texts.entries.map fun (k, s) => (k, .string s))
  | .label t => .ofList [("attribute_labels", Json.ofTextTable t)]
  | .information t => .ofList [("attribute_information", Json.ofTextTable t)]
  | .entry t => .ofList [("attribute_entries", tables t)]
  | .characterEncoding general t =>
    .ofList (optionalText "default_character_encoding" general ++
      [("attribute_character_encodings", Json.ofTextTable t)])
  | .format t => .ofList [("attribute_formats", Json.ofTextTable t)]
  | .unit system t =>
    .ofList (optionalText "metric_system" system ++ [("attribute_units", Json.ofTextTable t)])
  | .cardinality t => .ofList [("attribute_cardinalities", Json.ofTextTable t)]
  | .entryCode t => .ofList [("attribute_entry_codes", lists t)]
  | .sensitive names => .ofList [("attributes", Json.ofTexts names.names)]
  | .standard t => .ofList [("attribute_standards", Json.ofTextTable t)]
  | .mapping t => .ofList [("attribute_mappings", Json.ofTextTable t)]
  | .conformance t => .ofList [("attribute_conformances", Json.ofTextTable t)]
  | .conditional conditions dependencies =>
    .ofList [("attribute_conditions", Json.ofTextTable conditions),
      ("attribute_dependencies", lists dependencies)]
  | .link target t =>
    .ofList (optionalText "target_bundle" target ++ [("attribute_mapping", Json.ofTextTable t)])
  | .entryCodeMapping t => .ofList [("attribute_entry_codes_mapping", lists t)]
  | .custom _ properties => properties

inductive Error
  | unsupportedTag (tag : String)
  | entryNotText (tag key : String) (found : Json)
  | badValue (tag key : String) (fault : Json.Fault)
  | unexpectedKey (tag key : String)
  deriving DecidableEq

def Error.message : Error → String
  | .unsupportedTag tag => s!"malformed overlay: unsupported overlay type {quoted tag}"
  | .entryNotText tag key found =>
    s!"malformed overlay: {tag}: meta entry {quoted key} must be a string, got {found.compact}"
  | .badValue tag key fault => s!"malformed overlay: {tag}: {key}: {fault.message}"
  | .unexpectedKey tag key => s!"malformed overlay: {tag}: unexpected key {quoted key}"

/-- Decodes the value of a key. A missing value and null both give the default. -/
def take {α : Type} (tag : String) (payload : Table Json) (key : String) (default : α)
    (decode : Json → Except Json.Fault α) : Except Error α :=
  match payload.get? key with
  | none | some .null => .ok default
  | some v => (decode v).mapError (.badValue tag key)

def takeOptional (tag : String) (payload : Table Json) (key : String) :
    Except Error (Option String) :=
  take tag payload key none fun v => v.toText.map some

def takeTexts (tag : String) (payload : Table Json) (key : String) : Except Error (Table String) :=
  take tag payload key ∅ (Json.toTable Json.toText)

def takeLists (tag : String) (payload : Table Json) (key : String) :
    Except Error (Table (List String)) :=
  take tag payload key ∅ (Json.toTable Json.toTexts)

def finish (tag : String) (payload : Table Json) (keys : List String) : Except Error Unit :=
  match payload.names.find? fun k => !keys.contains k with
  | some key => .error (.unexpectedKey tag key)
  | none => .ok ()

def takeOnly (tag : String) (payload : Table Json) (key : String) (body : Table String → Body) :
    Except Error Body := do
  let t ← takeTexts tag payload key
  finish tag payload [key]
  return body t

def metaText (tag : String) : String × Json → Except Error (String × String)
  | (key, .string s) => .ok (key, s)
  | (key, v) => .error (.entryNotText tag key v)

/-- Decodes the payload of a kind; the custom kind keeps it under a tag of its own. -/
def ofKind (tag : String) (payload : Table Json) : Kind → Except Error Body
  | .metadata => do return .metadata (.ofList (← payload.entries.mapM (metaText tag)))
  | .label => takeOnly tag payload "attribute_labels" .label
  | .information => takeOnly tag payload "attribute_information" .information
  | .entry => do
    let t ← take tag payload "attribute_entries" ∅ (Json.toTable (Json.toTable Json.toText))
    finish tag payload ["attribute_entries"]
    return .entry t
  | .characterEncoding => do
    let general ← takeOptional tag payload "default_character_encoding"
    let t ← takeTexts tag payload "attribute_character_encodings"
    finish tag payload ["default_character_encoding", "attribute_character_encodings"]
    return .characterEncoding general t
  | .format => takeOnly tag payload "attribute_formats" .format
  | .unit => do
    let system ← takeOptional tag payload "metric_system"
    let t ← takeTexts tag payload "attribute_units"
    finish tag payload ["metric_system", "attribute_units"]
    return .unit system t
  | .cardinality => takeOnly tag payload "attribute_cardinalities" .cardinality
  | .entryCode => do
    let t ← takeLists tag payload "attribute_entry_codes"
    finish tag payload ["attribute_entry_codes"]
    return .entryCode t
  | .sensitive => do
    let names ← take tag payload "attributes" [] Json.toTexts
    finish tag payload ["attributes"]
    return .sensitive (.ofList names)
  | .standard => takeOnly tag payload "attribute_standards" .standard
  | .mapping => takeOnly tag payload "attribute_mappings" .mapping
  | .conformance => takeOnly tag payload "attribute_conformances" .conformance
  | .conditional => do
    let conditions ← takeTexts tag payload "attribute_conditions"
    let dependencies ← takeLists tag payload "attribute_dependencies"
    finish tag payload ["attribute_conditions", "attribute_dependencies"]
    return .conditional conditions dependencies
  | .link => do
    let target ← takeOptional tag payload "target_bundle"
    let t ← takeTexts tag payload "attribute_mapping"
    finish tag payload ["target_bundle", "attribute_mapping"]
    return .link target t
  | .entryCodeMapping => do
    let t ← takeLists tag payload "attribute_entry_codes_mapping"
    finish tag payload ["attribute_entry_codes_mapping"]
    return .entryCodeMapping t
  | .custom => .error (.unsupportedTag tag)

def ofPayload (tag : String) (payload : Table Json) : Except Error Body :=
  match h : Kind.ofTag? tag with
  | some k => ofKind tag payload k
  | none =>
    if h' : Kind.isOverlayTag tag then .ok (.custom ⟨tag, h', h⟩ payload)
    else .error (.unsupportedTag tag)

end Body

end LayeredSchema
