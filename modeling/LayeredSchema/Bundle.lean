import LayeredSchema.CaptureBase
import LayeredSchema.Overlay.Basic

/-!
Bundles: a capture base and overlays in order, under one address.

The address covers the addresses of the parts. The name is a local alias that it does not cover.
Main definitions: `Bundle.make`, `Bundle.toJson`, `Bundle.ofJson`.
-/

namespace LayeredSchema

structure Bundle where
  digest : Said
  name : Option String
  captureBase : CaptureBase
  overlays : List Overlay
  deriving DecidableEq

namespace Bundle

def content (captureBase : Said) (overlays : List Said) : Json :=
  .object [("capture_base", .string captureBase.text),
    ("overlays", Json.ofTexts (overlays.map Said.text))]

def addressOf (captureBase : Said) (overlays : List Said) : Said :=
  .compute Canonical.bundleDomain (Canonical.encode (content captureBase overlays))

/-- Binds overlays to a capture base and computes the address of the whole. -/
def make (name : Option String) (captureBase : CaptureBase) (overlays : List Overlay) : Bundle :=
  ⟨addressOf captureBase.digest (overlays.map (·.digest)), name, captureBase,
    overlays.map (·.bind captureBase.digest)⟩

/-- The address that the stored addresses of the parts call for. -/
def computedDigest (b : Bundle) : Said :=
  addressOf b.captureBase.digest (b.overlays.map (·.digest))

def overlaysOf (b : Bundle) (kind : Kind) : List Overlay := b.overlays.filter (·.kind == kind)

/-- The wire form. A bundle without a name has no entry for it. -/
def toJson (b : Bundle) : Json :=
  .object
    (("digest", .string b.digest.text) :: Overlay.optionalEntry "name" b.name ++
      [("capture_base", b.captureBase.toJson), ("overlays", .array (b.overlays.map (·.toJson)))])

/-- The fields of a wire object that were read so far. -/
structure Fields where
  digest : Option Said := none
  name : Option (Option String) := none
  captureBase : Option CaptureBase := none
  overlays : Option (List Overlay) := none

def overlaysOfJson (v : Json) : Except Json.Fault (List Overlay) := do
  (← v.toItems).mapM Overlay.ofJson

/-- Reads one more field; fields of other names are skipped. -/
def Fields.read (f : Fields) : String × Json → Except Json.Fault Fields
  | ("digest", v) => do
    return { f with digest := ← Json.setOnce "digest" f.digest (CaptureBase.decodeSaid v) }
  | ("name", v) => do
    return { f with name := ← Json.setOnce "name" f.name (v.toOptional Json.toText) }
  | ("capture_base", v) => do
    return { f with
      captureBase := ← Json.setOnce "capture_base" f.captureBase (CaptureBase.ofJson v) }
  | ("overlays", v) => do
    return { f with overlays := ← Json.setOnce "overlays" f.overlays (overlaysOfJson v) }
  | _ => return f

def Fields.finish (f : Fields) : Except Json.Fault Bundle := do
  return ⟨← Json.require "digest" f.digest, f.name.getD none,
    ← Json.require "capture_base" f.captureBase, f.overlays.getD []⟩

/-- Decodes the wire form: an object, or an array of the fields in order, of which the overlays may
be left out. -/
def ofJson : Json → Except Json.Fault Bundle
  | .object entries => do (← entries.foldlM Fields.read {}).finish
  | .array items => do
    let expected := "struct Bundle with 4 elements"
    let digest ← Json.element items 0 expected CaptureBase.decodeSaid
    let name ← Json.elementOr items 1 none (Json.toOptional Json.toText)
    let captureBase ← Json.element items 2 expected CaptureBase.ofJson
    let overlays ← Json.elementOr items 3 [] overlaysOfJson
    Json.endAt items 4
    return ⟨digest, name, captureBase, overlays⟩
  | v => .error (.wrongType v "struct Bundle")

def shape : Json.Shape :=
  .fields [("digest", .whole), ("name", .whole), ("capture_base", CaptureBase.shape),
    ("overlays", .whole)]

def read (text : String) : Except Json.TextFault Bundle := Json.decodeText shape ofJson text

def text (b : Bundle) : String := b.toJson.pretty

end Bundle

end LayeredSchema
