import LayeredSchema.Bundle
import LayeredSchema.Ocafile.Printer
import LayeredSchema.Registry.Basic

/-!
The commands that make a bundle, and the OCAfile text of a bundle.
-/

namespace LayeredSchema

open Text

mutual

/-- The property value that stands for a payload value: lists of texts are arrays, objects are
blocks, and values of other kinds their JSON text. -/
def PropertyValue.ofJson : Json → PropertyValue
  | .string s => .text s
  | .array items =>
    match items.mapM Json.asText? with
    | some ss => .list ss
    | none => .text (Json.array items).compact
  | .object entries => .block (Property.ofEntries entries)
  | v => .text v.compact

def Property.ofEntries : List (String × Json) → List Property
  | [] => []
  | (key, v) :: es => .mk 0 key (PropertyValue.ofJson v) :: Property.ofEntries es

end

namespace Bundle

/-- What follows the first slash of a tag, up to the next. -/
def tagName (tag : String) : String :=
  match splitOnce? ['/'] tag.toList with
  | some (_, rest) => String.ofList (rest.takeWhile (· != '/'))
  | none => tag

/-- The name of an overlay in commands: that of its tag's definition, or else the name in the tag
of a custom kind. -/
def commandName (r : Registry) (o : Overlay) : String :=
  match r.resolveTag o.tag with
  | some d => d.name
  | none =>
    match o.kind with
    | .custom => tagName o.tag
    | k => k.name

def languageProperty : Option String → List Property
  | some l => [.mk 0 "language" (.text l)]
  | none => []

def overlayAction (r : Registry) (o : Overlay) : Action :=
  .overlay (commandName r o)
    (languageProperty o.language ++ Property.ofEntries o.body.toPayload.entries)

def classificationActions (b : CaptureBase) : List Action :=
  if b.classification.isEmpty then [] else [.classification b.classification]

def attributeActions (b : CaptureBase) : List Action :=
  if b.attributes.entries.isEmpty then [] else [.attributes b.attributes.entries]

/-- The file that makes the bundle. Its commands have no line numbers. -/
def toOcafile (r : Registry) (b : Bundle) : Ocafile :=
  ⟨b.name, (classificationActions b.captureBase ++ attributeActions b.captureBase ++
    b.overlays.map (overlayAction r)).map fun a => ⟨0, a⟩⟩

def ocafileText (r : Registry) (b : Bundle) : String := (b.toOcafile r).text

end Bundle

end LayeredSchema
